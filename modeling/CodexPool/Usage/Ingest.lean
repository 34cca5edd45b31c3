import CodexPool.Lib.Firsts
import CodexPool.Usage.Event

/-!
# Ingestion into Postgres and SQLite

Without ClickHouse the control plane ingests the events itself. Postgres keeps a log row
and hourly counts, SQLite the log row alone, and both ignore an event whose id they have
already stored. Here these two, the dashboard of Postgres and the worker's aggregation are
compared with the number of requests, which is the number of different ids of events that
are not `streaming_open`.
-/

namespace CodexPool

open Saturating Tally

/-- The clock reading of a whole second. -/
def timestampBound (ts : Int) : DateTime := ts * seconds 1

def hourlyBound (ts : Int) : DateTime := truncateToHour (timestampBound ts)

/-- `AND column = ?` on a column that may be null, where the argument is given. -/
def matchesColumn (arg column : Option Uuid) : Bool := arg.all fun value => column = some value

/-! ## Postgres -/

def asI64 (value : Nat) (field : String) : Result Nat :=
  if value ≤ 9223372036854775807 then .ok value else .error (field ++ " exceeds i64 range")

/-- The log by id, and the hourly tables by their primary keys. -/
structure PgUsageDb where
  usageRequestLogs : List RequestLogRow := []
  usageHourlyAccount : List ((Uuid × DateTime) × Nat) := []
  usageHourlyTenantApiKey : List ((Uuid × Uuid × DateTime) × Nat) := []
  usageHourlyTenantAccount : List ((Uuid × Uuid × DateTime) × Nat) := []

namespace PgUsageDb

def upsertHourlyAccountRow (table : List ((Uuid × DateTime) × Nat))
    (row : HourlyAccountUsageRow) : Result (List ((Uuid × DateTime) × Nat)) := do
  let requestCount ← asI64 row.requestCount "usage_hourly_account.request_count"
  pure (add (row.accountId, row.hourStart) requestCount table)

def upsertHourlyTenantApiKeyRow (table : List ((Uuid × Uuid × DateTime) × Nat))
    (row : HourlyTenantApiKeyUsageRow) : Result (List ((Uuid × Uuid × DateTime) × Nat)) := do
  let requestCount ← asI64 row.requestCount "usage_hourly_tenant_api_key.request_count"
  pure (add (row.tenantId, row.apiKeyId, row.hourStart) requestCount table)

def upsertHourlyTenantAccountRow (table : List ((Uuid × Uuid × DateTime) × Nat))
    (row : HourlyTenantAccountUsageRow) : Result (List ((Uuid × Uuid × DateTime) × Nat)) := do
  let requestCount ← asI64 row.requestCount "usage_hourly_tenant_account.request_count"
  pure (add (row.tenantId, row.accountId, row.hourStart) requestCount table)

section Ingest

variable (cost : RequestLogRow → Option I64)

/-- The log row of an event; `cost` is what the pricing tables say of it. -/
def logRow (event : RequestLogEvent) : RequestLogRow :=
  let row := requestLogRowFromEvent event event.tenantId event.apiKeyId
  { row with estimatedCostMicrousd := cost row }

/-- The transaction of one event. -/
def ingestRequestLog (db : PgUsageDb) (event : RequestLogEvent) : Result PgUsageDb := do
  let row := logRow cost event
  let usageRows := usageRowsFromRequestLogEvent event event.tenantId event.apiKeyId
  let _ ← row.firstTokenLatencyMs.mapM fun value => asI64 value "first_token_latency_ms"
  let _ ← asI64 row.latencyMs "latency_ms"
  -- `ON CONFLICT (id) DO NOTHING`
  if db.usageRequestLogs.any fun r => r.id = row.id then pure db
  else
    let usageHourlyAccount ←
      usageRows.accountRows.foldlM upsertHourlyAccountRow db.usageHourlyAccount
    let usageHourlyTenantApiKey ←
      usageRows.tenantApiKeyRows.foldlM upsertHourlyTenantApiKeyRow db.usageHourlyTenantApiKey
    let usageHourlyTenantAccount ←
      usageRows.tenantAccountRows.foldlM upsertHourlyTenantAccountRow
        db.usageHourlyTenantAccount
    pure
      { usageRequestLogs := db.usageRequestLogs ++ [row]
        usageHourlyAccount, usageHourlyTenantApiKey, usageHourlyTenantAccount }

def ingestAll (events : List RequestLogEvent) : Result PgUsageDb :=
  events.foldlM (ingestRequestLog cost) {}

end Ingest

section Query

variable (db : PgUsageDb)

/-- `account_total_requests` of the summary, from the hourly table. -/
def accountTotalRequests (startTs endTs : Int) (accountId : Option Uuid) : Nat :=
  sumWhere Prod.snd
    (fun row => hourlyBound startTs ≤ row.1.2 && row.1.2 ≤ hourlyBound endTs &&
      accountId.all (row.1.1 = ·))
    db.usageHourlyAccount

/-- The `WHERE` clause of the dashboard's queries. -/
def dashboardSelects (startTs endTs : Int) (tenantId accountId apiKeyId : Option Uuid)
    (row : RequestLogRow) : Bool :=
  timestampBound startTs ≤ row.createdAt && row.createdAt ≤ timestampBound endTs &&
    !(row.billingPhase = some "streaming_open" : Bool) && matchesColumn tenantId row.tenantId &&
    accountId.all (row.accountId = ·) && matchesColumn apiKeyId row.apiKeyId

/-- `total_requests` of the dashboard's summary row. -/
def dashboardTotalRequests (startTs endTs : Int) (tenantId accountId apiKeyId : Option Uuid) :
    Nat :=
  db.usageRequestLogs.countP (dashboardSelects startTs endTs tenantId accountId apiKeyId)

/-- The hours of the dashboard's token trends with their request counts. -/
def dashboardTrends (startTs endTs : Int) (tenantId accountId apiKeyId : Option Uuid) :
    List (Int × Nat) :=
  let pointLimit := max 1 (min 10000 ((endTs - startTs).tdiv 3600 + 2))
  querySums (dashboardSelects startTs endTs tenantId accountId apiKeyId)
    (fun row => hourOf row.createdAt) (fun _ => 1) (fun x y => x.1 ≤ y.1) pointLimit.toNat
    db.usageRequestLogs

end Query

end PgUsageDb

/-! ## SQLite -/

structure SqliteLogRow where
  log : RequestLogRow
  createdAtTs : Int
  hourStartTs : Int

structure SqliteUsageDb where
  usageRequestLogs : List SqliteLogRow := []

namespace SqliteUsageDb

section Ingest

variable (cost : RequestLogRow → Option I64)

/-- `INSERT OR IGNORE`, by the id. -/
def ingestRequestLog (db : SqliteUsageDb) (event : RequestLogEvent) : SqliteUsageDb :=
  let row := requestLogRowFromEvent event event.tenantId event.apiKeyId
  let row := { row with estimatedCostMicrousd := cost row }
  if db.usageRequestLogs.any fun r => r.log.id = row.id then db
  else
    { usageRequestLogs := db.usageRequestLogs ++
        [⟨row, timestamp row.createdAt, timestamp (truncateToHour row.createdAt)⟩] }

def ingestAll (events : List RequestLogEvent) : SqliteUsageDb :=
  events.foldl (ingestRequestLog cost) {}

end Ingest

variable (db : SqliteUsageDb)

/-- The `WHERE` clause that the summaries share. -/
def summaryBaseSql (startTs endTs : Int) (tenantId accountId apiKeyId : Option Uuid)
    (row : SqliteLogRow) : Bool :=
  startTs ≤ row.createdAtTs && row.createdAtTs ≤ endTs &&
    matchesColumn tenantId row.log.tenantId && accountId.all (row.log.accountId = ·) &&
    matchesColumn apiKeyId row.log.apiKeyId

/-- `total_requests` of the summary. -/
def totalRequests (startTs endTs : Int) (tenantId accountId apiKeyId : Option Uuid) : Nat :=
  db.usageRequestLogs.countP (summaryBaseSql startTs endTs tenantId accountId apiKeyId)

end SqliteUsageDb

/-! ## The number of requests -/

/-- The ids of the selected events that are not `streaming_open`, each counted once. -/
def requestsWhere (p : RequestLogEvent → Bool) (events : List RequestLogEvent) : Nat :=
  ((events.filter fun e => !e.isStreamingOpen && p e).map (·.id)).dedup.length

/-- The requests of an account in the `hour`-th hour since the epoch. -/
def requestsOf (accountId : Uuid) (hour : Int) (events : List RequestLogEvent) : Nat :=
  requestsWhere (fun e => e.accountId = accountId ∧ hourOf e.createdAt = 3600 * hour) events

/-- Every way of counting gives the number of requests. -/
structure CountedOnce (db : PgUsageDb) (sqlite : SqliteUsageDb)
    (messages : List StreamMessage) : Prop where
  hourlyTable : ∀ accountId hour,
    db.accountTotalRequests (3600 * hour) (3600 * hour + 3599) (some accountId) =
      requestsOf accountId hour (messages.map (·.event))
  dashboardTrend : ∀ accountId hour,
    sumWhere Prod.snd (·.1 = 3600 * hour)
        (db.dashboardTrends (3600 * hour) (3600 * hour + 3600) none (some accountId) none) =
      requestsOf accountId hour (messages.map (·.event))
  dashboardTotal : ∀ accountId startTs endTs,
    db.dashboardTotalRequests startTs endTs none (some accountId) none =
      requestsWhere
        (fun e => e.accountId = accountId ∧ timestampBound startTs ≤ e.createdAt ∧
          e.createdAt ≤ timestampBound endTs)
        (messages.map (·.event))
  sqlite : ∀ accountId hour,
    sqlite.totalRequests (3600 * hour) (3600 * hour + 3599) none (some accountId) none =
      requestsOf accountId hour (messages.map (·.event))
  worker : ∀ accountId hour,
    sumWhere (·.requestCount)
        (fun r => r.accountId = accountId ∧ timestamp r.hourStart = 3600 * hour)
        (hourlyRows messages).accountRows =
      requestsOf accountId hour (messages.map (·.event))

/-- An event is final if and only if no earlier event has its id. -/
def FinalEventsFirst (events : List RequestLogEvent) : Prop :=
  ∀ pre event post, events = pre ++ event :: post →
    (event.isStreamingOpen = false ↔ ∀ e ∈ pre, e.id ≠ event.id)

/-! ## What ingestion stores -/

section Stored

open Firsts

variable {cost : RequestLogRow → Option I64}

theorem seconds_second : seconds 1 = 1000000 := rfl

theorem seconds_hour : seconds 3600 = 3600000000 := rfl

theorem hourOf_eq (t : DateTime) : hourOf t = 3600 * (t / seconds 3600) := by
  simp only [hourOf, timestamp, truncateToHour, seconds]
  omega

theorem accountRows_usageRows (event : RequestLogEvent) (tenantId apiKeyId : Option Uuid) :
    (usageRowsFromRequestLogEvent event tenantId apiKeyId).accountRows =
      [⟨event.accountId, truncateToHour event.createdAt, 1⟩] := by
  simp [usageRowsFromRequestLogEvent, aggregateByHour, bucketCounts, groupSums, add,
    UsageAggregationEvent.accountBucket, UsageAggregationEvent.fromRequestLogEvent]

theorem any_id_eq {ρ : Type*} (id : ρ → Uuid) (rows : List ρ) (wanted : Uuid) :
    (rows.any fun r => id r = wanted) = true ↔ wanted ∈ rows.map id := by
  simp

theorem PgUsageDb.ingestRequestLog_eq_ok {db db' : PgUsageDb} {event : RequestLogEvent}
    (h : ingestRequestLog cost db event = .ok db') :
    if event.id ∈ db.usageRequestLogs.map (·.id) then db' = db
    else
      db'.usageRequestLogs = db.usageRequestLogs ++ [logRow cost event] ∧
        db'.usageHourlyAccount =
          add (event.accountId, truncateToHour event.createdAt) 1 db.usageHourlyAccount := by
  have hany := any_id_eq (·.id) db.usageRequestLogs (logRow cost event).id
  simp only [ingestRequestLog, Result.bind_eq_ok] at h
  rcases h with ⟨_, _, _, _, h⟩
  split_ifs with hmem
  · rw [if_pos (hany.2 hmem)] at h
    exact (Except.ok.inj h).symm
  · rw [if_neg fun hdb => hmem (hany.1 hdb)] at h
    simp only [Result.bind_eq_ok, accountRows_usageRows] at h
    rcases h with ⟨account, haccount, _, _, _, _, h⟩
    rw [← Except.ok.inj h]
    exact ⟨rfl, (Except.ok.inj haccount).symm⟩

/-- The tables hold the first event with each id. -/
theorem PgUsageDb.ingestAll_stored {events : List RequestLogEvent} {db : PgUsageDb}
    (h : ingestAll cost events = .ok db) :
    db.usageRequestLogs = (firsts (·.id) events).map (logRow cost) ∧
      ∀ p : Uuid × DateTime → Bool,
        sumWhere Prod.snd (p ∘ Prod.fst) db.usageHourlyAccount =
          (firsts (·.id) events).countP fun e => p (e.accountId, truncateToHour e.createdAt) := by
  induction events using List.reverseRecOn generalizing db with
  | nil =>
      obtain rfl := Except.ok.inj h
      exact ⟨rfl, fun _ => rfl⟩
  | append_singleton events event ih =>
      rw [ingestAll, List.foldlM_append, Result.bind_eq_ok] at h
      rcases h with ⟨before, hbefore, h⟩
      rcases ih hbefore with ⟨hlogs, hhourly⟩
      simp only [List.foldlM_cons, List.foldlM_nil, bind_pure] at h
      have hstep := ingestRequestLog_eq_ok h
      have hids : before.usageRequestLogs.map (·.id) = (firsts (·.id) events).map (·.id) := by
        rw [hlogs, List.map_map]
        rfl
      simp only [hids, mem_map_firsts] at hstep
      rw [firsts_concat]
      split_ifs at hstep ⊢ with hmem
      · rw [hstep]
        exact ⟨hlogs, hhourly⟩
      · rcases hstep with ⟨hlogs', hhourly'⟩
        rw [hlogs', hhourly', hlogs, List.map_append]
        refine ⟨rfl, ?_⟩
        intro p
        rw [sumWhere_add, hhourly, List.countP_append, List.countP_singleton]

theorem SqliteUsageDb.ingestAll_stored (events : List RequestLogEvent) :
    (ingestAll cost events).usageRequestLogs = (firsts (·.id) events).map fun e =>
      ⟨PgUsageDb.logRow cost e, timestamp e.createdAt, hourOf e.createdAt⟩ := by
  induction events using List.reverseRecOn with
  | nil => rfl
  | append_singleton events event ih =>
      have hids : (ingestAll cost events).usageRequestLogs.map (·.log.id) =
          (firsts (·.id) events).map (·.id) := by
        rw [ih, List.map_map]
        rfl
      have hany := any_id_eq (·.log.id) (ingestAll cost events).usageRequestLogs event.id
      rw [hids, mem_map_firsts] at hany
      rw [ingestAll, List.foldl_append, List.foldl_cons, List.foldl_nil, ← ingestAll,
        firsts_concat]
      by_cases hmem : event.id ∈ events.map (·.id)
      · rw [if_pos hmem, ← ih]
        exact congrArg usageRequestLogs (if_pos (hany.2 hmem))
      · rw [if_neg hmem, List.map_append, ← ih]
        exact congrArg usageRequestLogs (if_neg fun h => hmem (hany.1 h))

end Stored

/-! ## The five counts -/

/-- The account and the hour in which an event is counted. -/
def RequestLogEvent.place (event : RequestLogEvent) : Uuid × Int :=
  (event.accountId, event.createdAt / seconds 3600)

theorem place_eq_iff {event : RequestLogEvent} {accountId : Uuid} {hour : Int} :
    event.place = (accountId, hour) ↔
      event.accountId = accountId ∧ hourOf event.createdAt = 3600 * hour := by
  rw [RequestLogEvent.place, Prod.mk.injEq, hourOf_eq]
  constructor
  · exact fun ⟨haccount, hhour⟩ => ⟨haccount, by rw [hhour]⟩
  · exact fun ⟨haccount, hhour⟩ => ⟨haccount, by omega⟩

theorem within_hourlyBound_iff {createdAt : DateTime} {hour : Int} :
    hourlyBound (3600 * hour) ≤ truncateToHour createdAt ∧
        truncateToHour createdAt ≤ hourlyBound (3600 * hour + 3599) ↔
      hourOf createdAt = 3600 * hour := by
  simp only [hourOf_eq, hourlyBound, timestampBound, truncateToHour, seconds_second,
    seconds_hour]
  change (_ : Int) ≤ _ ∧ (_ : Int) ≤ _ ↔ _
  omega

theorem mem_hours_of_within {createdAt : DateTime} {hour : Int}
    (hstart : timestampBound (3600 * hour) ≤ createdAt)
    (hend : createdAt ≤ timestampBound (3600 * hour + 3600)) :
    hourOf createdAt ∈ [3600 * hour, 3600 * (hour + 1)] := by
  change (_ : Int) ≤ _ at hstart hend
  simp only [timestampBound, seconds_second] at hstart hend
  rw [List.mem_pair, hourOf_eq, seconds_hour]
  omega

theorem within_of_hourOf_eq {createdAt : DateTime} {hour : Int}
    (h : hourOf createdAt = 3600 * hour) :
    timestampBound (3600 * hour) ≤ createdAt ∧
      createdAt ≤ timestampBound (3600 * hour + 3600) := by
  rw [hourOf_eq, seconds_hour] at h
  simp only [timestampBound, seconds_second]
  change (_ : Int) ≤ _ ∧ (_ : Int) ≤ _
  omega

theorem within_seconds_iff {createdAt : DateTime} {hour : Int} :
    3600 * hour ≤ timestamp createdAt ∧ timestamp createdAt ≤ 3600 * hour + 3599 ↔
      hourOf createdAt = 3600 * hour := by
  rw [hourOf_eq, timestamp, seconds_second, seconds_hour]
  omega

section Counts

open Firsts

variable {cost : RequestLogRow → Option I64} {events : List RequestLogEvent}
  (accountId : Uuid) (hour : Int)

theorem requestsOf_eq :
    requestsOf accountId hour events =
      distinctClosed (·.id) (fun e => !e.isStreamingOpen) RequestLogEvent.place
        (accountId, hour) events := by
  simp only [requestsOf, requestsWhere, distinctClosed, place_eq_iff]

namespace PgUsageDb

variable {db : PgUsageDb}

theorem accountTotalRequests_eq (h : ingestAll cost events = .ok db) :
    db.accountTotalRequests (3600 * hour) (3600 * hour + 3599) (some accountId) =
      (firsts (·.id) events).countP (·.place = (accountId, hour)) := by
  apply ((ingestAll_stored h).2 fun b =>
    hourlyBound (3600 * hour) ≤ b.2 && b.2 ≤ hourlyBound (3600 * hour + 3599) &&
      (some accountId).all (b.1 = ·)).trans
  apply List.countP_congr
  intro e _
  simp only [Option.all_some, Bool.and_eq_true, decide_eq_true_eq, place_eq_iff,
    within_hourlyBound_iff]
  exact and_comm

theorem dashboardTotalRequests_eq (h : ingestAll cost events = .ok db) (startTs endTs : Int) :
    db.dashboardTotalRequests startTs endTs none (some accountId) none =
      (firsts (·.id) events).countP fun e =>
        !e.isStreamingOpen && decide (e.accountId = accountId ∧
          timestampBound startTs ≤ e.createdAt ∧ e.createdAt ≤ timestampBound endTs) := by
  rw [dashboardTotalRequests, (ingestAll_stored h).1, List.countP_map]
  apply List.countP_congr
  intro e _
  simp only [Function.comp_apply, dashboardSelects, logRow, requestLogRowFromEvent,
    matchesColumn, Option.all_some, Option.all_none, RequestLogEvent.isStreamingOpen]
  grind

theorem dashboardTrends_eq (h : ingestAll cost events = .ok db) :
    sumWhere Prod.snd (·.1 = 3600 * hour)
        (db.dashboardTrends (3600 * hour) (3600 * hour + 3600) none (some accountId) none) =
      (firsts (·.id) events).countP fun e =>
        !e.isStreamingOpen && decide (e.place = (accountId, hour)) := by
  have hgroups : ∀ row ∈ db.usageRequestLogs,
      dashboardSelects (3600 * hour) (3600 * hour + 3600) none (some accountId) none row =
        true → hourOf row.createdAt ∈ [3600 * hour, 3600 * (hour + 1)] := by
    intro row _ hrow
    simp only [dashboardSelects, Bool.and_eq_true] at hrow
    exact mem_hours_of_within (of_decide_eq_true hrow.1.1.1.1.1)
      (of_decide_eq_true hrow.1.1.1.1.2)
  have hlimit : [3600 * hour, 3600 * (hour + 1)].length ≤
      (max 1 (min 10000 ((3600 * hour + 3600 - 3600 * hour).tdiv 3600 + 2))).toNat := by
    rw [add_sub_cancel_left]
    exact (by decide : 2 ≤ (max 1 (min 10000 ((3600 : Int).tdiv 3600 + 2))).toNat)
  apply (sumWhere_querySums hgroups hlimit (· = 3600 * hour)).trans
  rw [sumWhere_one, (ingestAll_stored h).1, List.countP_map]
  apply List.countP_congr
  intro e _
  simp only [Function.comp_apply, dashboardSelects, logRow, requestLogRowFromEvent,
    matchesColumn, Option.all_some, Option.all_none, RequestLogEvent.isStreamingOpen,
    Bool.and_eq_true, decide_eq_true_eq, place_eq_iff]
  have hwithin : hourOf e.createdAt = 3600 * hour → _ := within_of_hourOf_eq
  grind

end PgUsageDb

theorem SqliteUsageDb.totalRequests_eq :
    (ingestAll cost events).totalRequests (3600 * hour) (3600 * hour + 3599) none
        (some accountId) none =
      (firsts (·.id) events).countP (·.place = (accountId, hour)) := by
  rw [totalRequests, ingestAll_stored, List.countP_map]
  apply List.countP_congr
  intro e _
  simp only [Function.comp_apply, summaryBaseSql, PgUsageDb.logRow, requestLogRowFromEvent,
    matchesColumn, Option.all_some, Option.all_none, Bool.and_eq_true, decide_eq_true_eq,
    place_eq_iff, within_seconds_iff, Bool.and_true]
  exact and_comm

theorem sumWhere_hourlyRows (messages : List StreamMessage) :
    sumWhere (·.requestCount)
        (fun r => r.accountId = accountId ∧ timestamp r.hourStart = 3600 * hour)
        (hourlyRows messages).accountRows =
      (messages.map (·.event)).countP fun e =>
        !e.isStreamingOpen && decide (e.place = (accountId, hour)) := by
  apply (sumWhere_accountRows (aggregationEvents messages)
    fun b => b.1 = accountId ∧ timestamp b.2 = 3600 * hour).trans
  rw [aggregationEvents, List.countP_map, List.countP_filter, List.countP_map]
  apply List.countP_congr
  intro m _
  simp only [Function.comp_apply, place_eq_iff, Bool.and_eq_true, decide_eq_true_eq]
  exact and_comm

end Counts

/-! ## Agreement -/

section Agreement

open Firsts

variable {cost cost' : RequestLogRow → Option I64} {messages : List StreamMessage}
  {db : PgUsageDb}

theorem finalEventsFirst_iff {events : List RequestLogEvent} :
    FinalEventsFirst events ↔ ClosedFirst (·.id) (fun e => !e.isStreamingOpen) events := by
  simp [FinalEventsFirst, ClosedFirst]

/-- Once a sequence of events is ingested, every way of counting gives the number of requests
if and only if the final events are exactly those whose id is new. -/
theorem countedOnce_iff
    (h : PgUsageDb.ingestAll cost (messages.map (·.event)) = .ok db) :
    CountedOnce db (SqliteUsageDb.ingestAll cost' (messages.map (·.event))) messages ↔
      FinalEventsFirst (messages.map (·.event)) := by
  have hagree := agree_iff (fun e : RequestLogEvent => e.id) (fun e => !e.isStreamingOpen)
    RequestLogEvent.place (messages.map (·.event))
  rw [finalEventsFirst_iff]
  constructor
  · intro hcounted
    apply hagree.1
    rintro ⟨accountId, hour⟩
    rw [← requestsOf_eq, ← PgUsageDb.accountTotalRequests_eq accountId hour h,
      ← PgUsageDb.dashboardTrends_eq accountId hour h, ← sumWhere_hourlyRows]
    exact ⟨hcounted.hourlyTable accountId hour, hcounted.dashboardTrend accountId hour,
      hcounted.worker accountId hour⟩
  · intro hfirst
    have hall (accountId : Uuid) (hour : Int) := hagree.2 hfirst (accountId, hour)
    simp only [← requestsOf_eq] at hall
    exact
      { hourlyTable := fun accountId hour => by
          rw [PgUsageDb.accountTotalRequests_eq accountId hour h]
          exact (hall accountId hour).1
        dashboardTrend := fun accountId hour => by
          rw [PgUsageDb.dashboardTrends_eq accountId hour h]
          exact (hall accountId hour).2.1
        dashboardTotal := fun accountId startTs endTs => by
          rw [PgUsageDb.dashboardTotalRequests_eq accountId h]
          have hwindow := ((agree_iff _ _ (fun e : RequestLogEvent =>
            decide (e.accountId = accountId ∧ timestampBound startTs ≤ e.createdAt ∧
              e.createdAt ≤ timestampBound endTs)) _).2 hfirst true).2.1
          simpa only [Bool.decide_eq_true, distinctClosed, requestsWhere] using hwindow
        sqlite := fun accountId hour => by
          rw [SqliteUsageDb.totalRequests_eq]
          exact (hall accountId hour).1
        worker := fun accountId hour => by
          rw [sumWhere_hourlyRows]
          exact (hall accountId hour).2.2 }

theorem exists_eq_ok {α : Type} {x : Result α} (h : x.isOk = true) : ∃ a, x = .ok a := by
  cases x with
  | error e => cases h
  | ok a => exact ⟨a, rfl⟩

/-- Two requests, the first of which is reported once more, as one that is running. -/
def finalRequests : List StreamMessage :=
  [sampleMessage "a" "captured", sampleMessage "b" "captured",
    { sampleMessage "a" "streaming_open" with messageId := "c" }]

theorem finalRequests_countedOnce :
    ∃ db, PgUsageDb.ingestAll (fun _ => none) (finalRequests.map (·.event)) = .ok db ∧
      CountedOnce db
        (SqliteUsageDb.ingestAll (fun _ => none) (finalRequests.map (·.event))) finalRequests := by
  have hok : (PgUsageDb.ingestAll (fun _ => none) (finalRequests.map (·.event))).isOk = true := by
    decide +kernel
  rcases exists_eq_ok hok with ⟨db, hdb⟩
  refine ⟨db, hdb, (countedOnce_iff hdb).2 ?_⟩
  rintro pre event post hsplit
  change [sampleLogEvent "a" "captured", sampleLogEvent "b" "captured",
    sampleLogEvent "a" "streaming_open"] = _ at hsplit
  -- the event is one of the three
  obtain _ | ⟨first, _ | ⟨second, _ | ⟨third, pre⟩⟩⟩ := pre
  all_goals simp only [List.nil_append, List.cons_append, List.cons.injEq] at hsplit
  · obtain ⟨rfl, -⟩ := hsplit
    simp [RequestLogEvent.isStreamingOpen, sampleLogEvent]
  · obtain ⟨rfl, rfl, -⟩ := hsplit
    simp [RequestLogEvent.isStreamingOpen, sampleLogEvent]
  · obtain ⟨rfl, rfl, rfl, -⟩ := hsplit
    simp [RequestLogEvent.isStreamingOpen, sampleLogEvent]
  · have hlength := congrArg List.length hsplit.2.2.2
    simp at hlength

/-- A streamed request, reported while it is running and when it is done. -/
def streamedRequest : List StreamMessage :=
  [sampleMessage "open" "streaming_open", sampleMessage "final" "captured"]

theorem streamedRequest_not_countedOnce :
    ∃ db, PgUsageDb.ingestAll (fun _ => none) (streamedRequest.map (·.event)) = .ok db ∧
      ¬ CountedOnce db
        (SqliteUsageDb.ingestAll (fun _ => none) (streamedRequest.map (·.event)))
        streamedRequest := by
  have hok : (PgUsageDb.ingestAll (fun _ => none)
      (streamedRequest.map (·.event))).isOk = true := by
    decide +kernel
  rcases exists_eq_ok hok with ⟨db, hdb⟩
  refine ⟨db, hdb, ?_⟩
  intro hcounted
  have hsqlite := hcounted.sqlite ⟨"account"⟩ 0
  revert hsqlite
  decide +kernel

end Agreement

end CodexPool
