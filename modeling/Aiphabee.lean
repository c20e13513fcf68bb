import Aiphabee.Sandbox.Bridge
import Aiphabee.Sandbox.TerminalRecord
import Aiphabee.ResearchAgent.RemoteSafety
import Aiphabee.ResearchAgent.ConcurrentClaims
import Aiphabee.Handoff.ConcurrentHandoffs
import Aiphabee.Usage.BillingReconciliation
import Aiphabee.Usage.PlanIdentifiers
import Aiphabee.ToolGateway.Egress
import Aiphabee.ProductControl.AdminReplay
import Aiphabee.MarketData.EphemeralCache
import Aiphabee.AgentRuntime.RunnerCancellation
import Aiphabee.AgentRuntime.RunnerCompletion
import Aiphabee.Sandbox.ExecutionStreamRuns
import Aiphabee.ProductControl.TerminalUsageSink
import Aiphabee.FastClawTransport.StreamAcceptance
import Aiphabee.NetquityMirror.DailyVerification
import Aiphabee.ArtifactScanner.CleanVerdict
import Aiphabee.NewsIngest.ReleasedVersions
import Aiphabee.ChartImage.MatchedStores
import Aiphabee.ResearchRuns.ReplayExactness
import Aiphabee.IpoPublic.ApplyClosure
import Aiphabee.Timelines.EventTimeline
import Aiphabee.ChartEval.IsotonicFit
import Aiphabee.ChartEval.DrawnLineMatching
import Aiphabee.CorporateActions.AdjustmentLaw
import Aiphabee.HeldApply.Isolation
import Aiphabee.IpoIngest.CountAgreement
import Aiphabee.IpoIngest.SingleRelease
import Aiphabee.NewsIngest.CompleteCrawls
import Aiphabee.NewsIngest.RunStatus
import Aiphabee.ChartParse.Executor
import Aiphabee.MarketData.BarNormalization
import Aiphabee.Analytics.EventStudy
import Aiphabee.Analytics.PortfolioWeights
import Aiphabee.DataAccess.CacheKeys
import Aiphabee.DataAccess.RowOrder
import Aiphabee.Sharing.NoExpansion
import Aiphabee.AgentRuntime.ToolLoopPlan
import Aiphabee.AgentRuntime.NumericGate
import Aiphabee.NetquityMirror.RowTokenizer
import Aiphabee.Mcp.BudgetVerdict
import Aiphabee.NetquityMirror.DeletionFiles
import Aiphabee.Mcp.IpAllowlist
import Aiphabee.NetquityMirror.WriteHost
import Aiphabee.Mcp.BoundedRetrieval
import Aiphabee.Workbench.DerivedMetrics
import Aiphabee.NetquityMirror.DeliveryCandidates
import Aiphabee.Web.AgentStream
import Aiphabee.MarketData.RenderedIndicators
import Aiphabee.Watchlist.AlertIdentity
import Aiphabee.ResearchRuns.CorrectionNotices
