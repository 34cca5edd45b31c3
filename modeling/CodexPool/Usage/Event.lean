import CodexPool.Basic
import CodexPool.Lib.Saturating
import CodexPool.Lib.Tally
import Mathlib.Data.List.Sort

/-!
# Request log events and their hourly counts

The data plane reports every request as a `RequestLogEvent`; a streamed request is
reported twice, once with the billing phase `streaming_open` while it is still
running. Each event becomes one row of the request log, and `aggregateByHour`
counts events by account, tenant and API key for each hour.
-/

namespace CodexPool

open Saturating

structure RequestLogEvent where
  id : Uuid
  accountId : Uuid
  tenantId : Option Uuid
  apiKeyId : Option Uuid
  eventVersion : Nat
  path : String
  method : String
  statusCode : Nat
  latencyMs : Nat
  isStream : Bool
  errorCode : Option String
  requestId : Option String
  model : Option String
  serviceTier : Option String
  inputTokens : Option I64
  cachedInputTokens : Option I64
  outputTokens : Option I64
  reasoningTokens : Option I64
  firstTokenLatencyMs : Option Nat
  billingPhase : Option String
  authorizationId : Option Uuid
  captureStatus : Option String
  createdAt : DateTime

structure RequestLogRow where
  id : Uuid
  accountId : Uuid
  tenantId : Option Uuid
  apiKeyId : Option Uuid
  requestId : Option String
  path : String
  method : String
  model : Option String
  serviceTier : Option String
  inputTokens : Option I64
  cachedInputTokens : Option I64
  outputTokens : Option I64
  reasoningTokens : Option I64
  firstTokenLatencyMs : Option Nat
  statusCode : Nat
  latencyMs : Nat
  isStream : Bool
  errorCode : Option String
  billingPhase : Option String
  authorizationId : Option Uuid
  captureStatus : Option String
  estimatedCostMicrousd : Option I64
  createdAt : DateTime
  eventVersion : Nat

def requestLogRowFromEvent (event : RequestLogEvent) (tenantId apiKeyId : Option Uuid) :
    RequestLogRow where
  id := event.id
  accountId := event.accountId
  tenantId := tenantId
  apiKeyId := apiKeyId
  requestId := event.requestId
  path := event.path
  method := event.method
  model := event.model
  serviceTier := event.serviceTier
  inputTokens := event.inputTokens
  cachedInputTokens := event.cachedInputTokens
  outputTokens := event.outputTokens
  reasoningTokens := event.reasoningTokens
  firstTokenLatencyMs := event.firstTokenLatencyMs
  statusCode := event.statusCode
  latencyMs := event.latencyMs
  isStream := event.isStream
  errorCode := event.errorCode
  billingPhase := event.billingPhase
  authorizationId := event.authorizationId
  captureStatus := event.captureStatus
  estimatedCostMicrousd := none
  createdAt := event.createdAt
  eventVersion := event.eventVersion

structure UsageAggregationEvent where
  accountId : Uuid
  tenantId : Option Uuid
  apiKeyId : Option Uuid
  createdAt : DateTime
deriving DecidableEq

def UsageAggregationEvent.fromRequestLogEvent (event : RequestLogEvent)
    (tenantId apiKeyId : Option Uuid) : UsageAggregationEvent :=
  { accountId := event.accountId, tenantId, apiKeyId, createdAt := event.createdAt }

/-! ## Hours -/

/-- The start of the hour. -/
def truncateToHour (createdAt : DateTime) : DateTime :=
  createdAt - createdAt % seconds 3600

/-- Whole seconds since the epoch. -/
def timestamp (t : DateTime) : Int := t / seconds 1

/-- The hour of a clock reading, as the tables of ClickHouse and SQLite name it. -/
def hourOf (createdAt : DateTime) : Int := timestamp (truncateToHour createdAt)

/-! ## Hourly rows -/

structure HourlyAccountUsageRow where
  accountId : Uuid
  hourStart : DateTime
  requestCount : Nat

structure HourlyTenantApiKeyUsageRow where
  tenantId : Uuid
  apiKeyId : Uuid
  hourStart : DateTime
  requestCount : Nat

structure HourlyTenantAccountUsageRow where
  tenantId : Uuid
  accountId : Uuid
  hourStart : DateTime
  requestCount : Nat

structure HourlyUsageRows where
  accountRows : List HourlyAccountUsageRow
  tenantApiKeyRows : List HourlyTenantApiKeyUsageRow
  tenantAccountRows : List HourlyTenantAccountUsageRow

namespace UsageAggregationEvent

variable (event : UsageAggregationEvent)

def accountBucket : Uuid × DateTime := (event.accountId, truncateToHour event.createdAt)

def tenantBucket : Option (Uuid × Uuid × DateTime) :=
  event.tenantId.bind fun tenantId =>
    event.apiKeyId.map fun apiKeyId => (tenantId, apiKeyId, truncateToHour event.createdAt)

def tenantAccountBucket : Option (Uuid × Uuid × DateTime) :=
  event.tenantId.map fun tenantId =>
    (tenantId, event.accountId, truncateToHour event.createdAt)

end UsageAggregationEvent

/-- The number of times each bucket is met. -/
def bucketCounts {κ : Type*} [DecidableEq κ] (buckets : List κ) : List (κ × Nat) :=
  Tally.groupSums id (fun _ => 1) buckets

/-- The order of two rows by hour, then by one name and by another. -/
def rowLe (x y : DateTime × String × String) : Bool :=
  x.1 < y.1 || (x.1 = y.1 && (x.2.1 < y.2.1 || (x.2.1 = y.2.1 && !(y.2.2 < x.2.2))))

def aggregateByHour (events : List UsageAggregationEvent) : HourlyUsageRows :=
  let accountBuckets := bucketCounts (events.map (·.accountBucket))
  let tenantBuckets := bucketCounts (events.filterMap (·.tenantBucket))
  let tenantAccountBuckets := bucketCounts (events.filterMap (·.tenantAccountBucket))
  { accountRows := (accountBuckets.map fun b =>
      HourlyAccountUsageRow.mk b.1.1 b.1.2 b.2).mergeSort fun x y =>
        rowLe (x.hourStart, x.accountId.text, "") (y.hourStart, y.accountId.text, "")
    tenantApiKeyRows := (tenantBuckets.map fun b =>
      HourlyTenantApiKeyUsageRow.mk b.1.1 b.1.2.1 b.1.2.2 b.2).mergeSort fun x y =>
        rowLe (x.hourStart, x.tenantId.text, x.apiKeyId.text)
          (y.hourStart, y.tenantId.text, y.apiKeyId.text)
    tenantAccountRows := (tenantAccountBuckets.map fun b =>
      HourlyTenantAccountUsageRow.mk b.1.1 b.1.2.1 b.1.2.2 b.2).mergeSort fun x y =>
        rowLe (x.hourStart, x.tenantId.text, x.accountId.text)
          (y.hourStart, y.tenantId.text, y.accountId.text) }

def usageRowsFromRequestLogEvent (event : RequestLogEvent) (tenantId apiKeyId : Option Uuid) :
    HourlyUsageRows :=
  aggregateByHour [.fromRequestLogEvent event tenantId apiKeyId]

/-! ## Stream messages -/

structure StreamMessage where
  messageId : String
  event : RequestLogEvent
  tenantId : Option Uuid
  apiKeyId : Option Uuid

/-- The request was still running when the event was reported. -/
def RequestLogEvent.isStreamingOpen (event : RequestLogEvent) : Bool :=
  event.billingPhase = some "streaming_open"

namespace StreamMessage

variable (message : StreamMessage)

def resolvedTenantId : Option Uuid := message.tenantId.or message.event.tenantId

def resolvedApiKeyId : Option Uuid := message.apiKeyId.or message.event.apiKeyId

def aggregationEvent : UsageAggregationEvent :=
  .fromRequestLogEvent message.event message.resolvedTenantId message.resolvedApiKeyId

def requestLogRow : RequestLogRow :=
  requestLogRowFromEvent message.event message.resolvedTenantId message.resolvedApiKeyId

end StreamMessage

/-- The events of a batch that the worker counts. -/
def aggregationEvents (messages : List StreamMessage) : List UsageAggregationEvent :=
  (messages.filter fun m => !m.event.isStreamingOpen).map (·.aggregationEvent)

/-- The hourly rows of a batch. -/
def hourlyRows (messages : List StreamMessage) : HourlyUsageRows :=
  aggregateByHour (aggregationEvents messages)

/-! ## What the hourly rows count -/

section Counts

theorem sumWhere_bucketCounts {κ : Type*} [DecidableEq κ] (p : κ → Bool) (buckets : List κ) :
    Tally.sumWhere Prod.snd (p ∘ Prod.fst) (bucketCounts buckets) = buckets.countP p := by
  rw [bucketCounts, Tally.sumWhere_groupSums, Tally.sumWhere_one]
  rfl

theorem sumWhere_bucketCounts_filterMap {κ : Type*} [DecidableEq κ] (p : κ → Bool)
    (bucket : UsageAggregationEvent → Option κ) (events : List UsageAggregationEvent) :
    Tally.sumWhere Prod.snd (p ∘ Prod.fst) (bucketCounts (events.filterMap bucket)) =
      events.countP fun e => (bucket e).any p := by
  rw [sumWhere_bucketCounts, List.countP_filterMap]
  apply List.countP_congr
  intro e _
  cases bucket e <;> simp

theorem pos_of_mem_bucketCounts {κ : Type*} [DecidableEq κ] {buckets : List κ} :
    ∀ b ∈ bucketCounts buckets, 0 < b.2 :=
  Tally.pos_of_mem_groupSums fun _ _ => Nat.one_pos

variable (events : List UsageAggregationEvent)

theorem sumWhere_accountRows (p : Uuid × DateTime → Bool) :
    Tally.sumWhere (·.requestCount) (fun r => p (r.accountId, r.hourStart))
        (aggregateByHour events).accountRows =
      events.countP fun e => p e.accountBucket := by
  dsimp only [aggregateByHour]
  rw [Tally.sumWhere_perm (List.mergeSort_perm _ _), Tally.sumWhere_map]
  exact (sumWhere_bucketCounts p _).trans List.countP_map

theorem sumWhere_tenantApiKeyRows (p : Uuid × Uuid × DateTime → Bool) :
    Tally.sumWhere (·.requestCount) (fun r => p (r.tenantId, r.apiKeyId, r.hourStart))
        (aggregateByHour events).tenantApiKeyRows =
      events.countP fun e => e.tenantBucket.any p := by
  dsimp only [aggregateByHour]
  rw [Tally.sumWhere_perm (List.mergeSort_perm _ _), Tally.sumWhere_map]
  exact sumWhere_bucketCounts_filterMap p _ events

theorem sumWhere_tenantAccountRows (p : Uuid × Uuid × DateTime → Bool) :
    Tally.sumWhere (·.requestCount) (fun r => p (r.tenantId, r.accountId, r.hourStart))
        (aggregateByHour events).tenantAccountRows =
      events.countP fun e => e.tenantAccountBucket.any p := by
  dsimp only [aggregateByHour]
  rw [Tally.sumWhere_perm (List.mergeSort_perm _ _), Tally.sumWhere_map]
  exact sumWhere_bucketCounts_filterMap p _ events

end Counts

/-! ## A sample request -/

def sampleLogEvent (id billingPhase : String) : RequestLogEvent where
  id := ⟨id⟩
  accountId := ⟨"account"⟩
  tenantId := some ⟨"tenant"⟩
  apiKeyId := some ⟨"api-key"⟩
  eventVersion := 1
  path := "/v1/responses"
  method := "POST"
  statusCode := 200
  latencyMs := 40
  isStream := true
  errorCode := none
  requestId := some id
  model := some "gpt-5"
  serviceTier := none
  inputTokens := none
  cachedInputTokens := none
  outputTokens := none
  reasoningTokens := none
  firstTokenLatencyMs := none
  billingPhase := some billingPhase
  authorizationId := none
  captureStatus := none
  createdAt := 0

def sampleMessage (id billingPhase : String) : StreamMessage where
  messageId := id
  event := sampleLogEvent id billingPhase
  tenantId := none
  apiKeyId := none

end CodexPool
