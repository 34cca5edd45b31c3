import CodexPool.Anthropic.Agreement
import CodexPool.Anthropic.Announcement
import CodexPool.Anthropic.Message
import CodexPool.Anthropic.RequestItems
import CodexPool.Anthropic.SseTranslator
import CodexPool.Anthropic.Streamed
import CodexPool.Anthropic.ToolSchemas
import CodexPool.Anthropic.WellFormed
import CodexPool.Basic
import CodexPool.ControlPlane.Account
import CodexPool.ControlPlane.AccountMaps
import CodexPool.ControlPlane.ApiKey
import CodexPool.ControlPlane.ApiKeyValidation
import CodexPool.ControlPlane.CredentialCustody
import CodexPool.ControlPlane.ImportFrame
import CodexPool.ControlPlane.LiveReports
import CodexPool.ControlPlane.Loaders
import CodexPool.ControlPlane.MemoryRouting
import CodexPool.ControlPlane.MemorySnapshot
import CodexPool.ControlPlane.OAuthAnswers
import CodexPool.ControlPlane.OAuthImport
import CodexPool.ControlPlane.OAuthStore
import CodexPool.ControlPlane.OAuthVault
import CodexPool.ControlPlane.OAuthWorld
import CodexPool.ControlPlane.Operation
import CodexPool.ControlPlane.Outbox
import CodexPool.ControlPlane.OutboxCleanup
import CodexPool.ControlPlane.OutboxPolls
import CodexPool.ControlPlane.PgImport
import CodexPool.ControlPlane.PgRefresh
import CodexPool.ControlPlane.PolicyDecisions
import CodexPool.ControlPlane.PoolConsistency
import CodexPool.ControlPlane.PoolStanding
import CodexPool.ControlPlane.PoolTransitions
import CodexPool.ControlPlane.RateLimitJobCounts
import CodexPool.ControlPlane.RateLimitJobs
import CodexPool.ControlPlane.RefreshSweep
import CodexPool.ControlPlane.RoutingPlan
import CodexPool.ControlPlane.SideMaps
import CodexPool.ControlPlane.SignalHeatmap
import CodexPool.ControlPlane.StatusAgreement
import CodexPool.ControlPlane.Store
import CodexPool.ControlPlane.SystemEvents
import CodexPool.ControlPlane.TokenReuse
import CodexPool.ControlPlane.VaultActivation
import CodexPool.ControlPlane.VaultChoice
import CodexPool.Core.Model
import CodexPool.DataPlane.AuthCache
import CodexPool.DataPlane.CandidateCheck
import CodexPool.DataPlane.Convergence
import CodexPool.DataPlane.EjectionTtl
import CodexPool.DataPlane.Ejections
import CodexPool.DataPlane.ErrorBodies
import CodexPool.DataPlane.Exclusion
import CodexPool.DataPlane.ModelAllowlist
import CodexPool.DataPlane.OutboundProxy
import CodexPool.DataPlane.PickInvariant
import CodexPool.DataPlane.PickResults
import CodexPool.DataPlane.PolicyRoutes
import CodexPool.DataPlane.RouteAdherence
import CodexPool.DataPlane.Router
import CodexPool.DataPlane.RouterOps
import CodexPool.DataPlane.RoutingCache
import CodexPool.DataPlane.Settle
import CodexPool.DataPlane.SharedCursor
import CodexPool.DataPlane.SideTables
import CodexPool.DataPlane.Snapshot
import CodexPool.DataPlane.SnapshotPoller
import CodexPool.DataPlane.StickyCounts
import CodexPool.DataPlane.StickyDiscipline
import CodexPool.DataPlane.StickyTable
import CodexPool.ImportJobs.Items
import CodexPool.ImportJobs.Job
import CodexPool.ImportJobs.KeptCredentials
import CodexPool.ImportJobs.Records
import CodexPool.ImportJobs.RunJob
import CodexPool.ImportJobs.SingleRun
import CodexPool.ImportJobs.Starts
import CodexPool.ImportJobs.Stores
import CodexPool.ImportJobs.TransientRetries
import CodexPool.ImportJobs.VaultAdmission
import CodexPool.Lib.Attempts
import CodexPool.Lib.BlockStream
import CodexPool.Lib.Bytes
import CodexPool.Lib.ChangeLog
import CodexPool.Lib.CharBoundary
import CodexPool.Lib.CountedRows
import CodexPool.Lib.CursorPages
import CodexPool.Lib.Custody
import CodexPool.Lib.Delivery
import CodexPool.Lib.Entries
import CodexPool.Lib.ExpiringMaps
import CodexPool.Lib.Firsts
import CodexPool.Lib.HoldLedger
import CodexPool.Lib.Json
import CodexPool.Lib.JsonMerge
import CodexPool.Lib.JsonNumbers
import CodexPool.Lib.JsonPaths
import CodexPool.Lib.Keyed
import CodexPool.Lib.KeysetPages
import CodexPool.Lib.Latest
import CodexPool.Lib.LineFeed
import CodexPool.Lib.Machine
import CodexPool.Lib.Paging
import CodexPool.Lib.Potential
import CodexPool.Lib.Replacing
import CodexPool.Lib.Rounding
import CodexPool.Lib.Saturating
import CodexPool.Lib.Selections
import CodexPool.Lib.SipHash
import CodexPool.Lib.SlidingWindow
import CodexPool.Lib.SortedLists
import CodexPool.Lib.Stateful
import CodexPool.Lib.Sweep
import CodexPool.Lib.Table
import CodexPool.Lib.Tally
import CodexPool.Lib.Text
import CodexPool.Lib.Turns
import CodexPool.Lib.Unwinding
import CodexPool.Lib.Upserts
import CodexPool.Lib.Utf8
import CodexPool.Lib.Windows
import CodexPool.Proxy.Bridged
import CodexPool.Proxy.CodexAdaptation
import CodexPool.Proxy.ContinuationRestore
import CodexPool.Proxy.EchoedUsage
import CodexPool.Proxy.EncodingCoherence
import CodexPool.Proxy.ErrorRedaction
import CodexPool.Proxy.GuardIsolation
import CodexPool.Proxy.Handler
import CodexPool.Proxy.Headers
import CodexPool.Proxy.Holds
import CodexPool.Proxy.LoopBound
import CodexPool.Proxy.Prelude
import CodexPool.Proxy.PricedAlike
import CodexPool.Proxy.Settlement
import CodexPool.Proxy.ShortStreams
import CodexPool.Proxy.StreamTask
import CodexPool.Proxy.StreamValues
import CodexPool.Proxy.UpstreamError
import CodexPool.Proxy.Usage
import CodexPool.Proxy.WsAdaptation
import CodexPool.Proxy.WsSession
import CodexPool.Proxy.WsSettlement
import CodexPool.Proxy.WsSwitch
import CodexPool.Proxy.WsTracker
import CodexPool.Responses.Conversation
import CodexPool.Responses.Finality
import CodexPool.Responses.FrameText
import CodexPool.Responses.Framing
import CodexPool.Responses.InputPages
import CodexPool.Responses.Isolation
import CodexPool.Responses.Reader
import CodexPool.Responses.Store
import CodexPool.Responses.StreamLog
import CodexPool.Responses.Transition
import CodexPool.Responses.Worker
import CodexPool.Tenant.Acceptance
import CodexPool.Tenant.ApiKeyGroups
import CodexPool.Tenant.Billing
import CodexPool.Tenant.CaptureAgreement
import CodexPool.Tenant.CatalogSync
import CodexPool.Tenant.Charging
import CodexPool.Tenant.Conservation
import CodexPool.Tenant.CreditRuns
import CodexPool.Tenant.CreditSummary
import CodexPool.Tenant.Database
import CodexPool.Tenant.DefaultGroup
import CodexPool.Tenant.GuessLimit
import CodexPool.Tenant.GuessPacing
import CodexPool.Tenant.HoldRows
import CodexPool.Tenant.LoginThrottle
import CodexPool.Tenant.Pricing
import CodexPool.Tenant.Reconcile
import CodexPool.Tenant.Refinement
import CodexPool.Tenant.Repricing
import CodexPool.Tenant.Retries
import CodexPool.Tenant.RuleInForce
import CodexPool.Tenant.SelfService
import CodexPool.Tenant.SessionCookie
import CodexPool.Usage.ClickHouse
import CodexPool.Usage.CostAlike
import CodexPool.Usage.DeadLetters
import CodexPool.Usage.Event
import CodexPool.Usage.HourlyTotals
import CodexPool.Usage.Ingest
import CodexPool.Usage.Overcharge
import CodexPool.Usage.ReconcileLoop
import CodexPool.Usage.ReconcileProgress
import CodexPool.Usage.Redelivery
import CodexPool.Usage.Worker
import CodexPool.Usage.WorkerBackoff
