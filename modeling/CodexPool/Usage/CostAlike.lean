import CodexPool.Tenant.Charging
import CodexPool.Tenant.Pricing
import CodexPool.Usage.Ingest

/-!
# The cost of a reported request

Both repositories price a request before they store it: an override for its tier comes first, then
the catalogue, then the prices of the environment. A row of the catalogue without prices is an
error, and the event is lost with it. Where no price for cached input is set, Postgres takes the
price of input and SQLite a tenth of it.
-/

namespace CodexPool

open Saturating

/-- The prices of a row, with what the repository makes of its price for cached input. -/
def priceOfRow (normalizeCached : I64 → I64 → I64) (row : CatalogModel) :
    Result TokenPriceMicrousd := do
  let input ← PricingTables.catalogPrice "input_price_microcredits" row.inputPriceMicrocredits
  let cached ← PricingTables.catalogPrice "cached_input_price_microcredits"
    row.cachedInputPriceMicrocredits
  let output ← PricingTables.catalogPrice "output_price_microcredits" row.outputPriceMicrocredits
  pure ⟨input, normalizeCached input cached, output⟩

namespace PricingTables

variable (tables : PricingTables)

/-- The columns of an override that are read. -/
def overrideRow (row : ModelPricingOverride) : CatalogModel where
  modelId := row.model
  inputPriceMicrocredits := some row.inputPriceMicrocredits
  cachedInputPriceMicrocredits := some row.cachedInputPriceMicrocredits
  outputPriceMicrocredits := some row.outputPriceMicrocredits

/-- The override of the first tier that has one. -/
def overrideFor (model serviceTier : String) : Option CatalogModel :=
  (pricingOverrideLookupTiers serviceTier).findSome? fun lookupTier =>
    (tables.modelPricingOverrides.find? fun row =>
      row.model = model ∧ row.serviceTier = lookupTier ∧ row.enabled).map overrideRow

/-- The row that a request is priced by. -/
def usageRowFor (model serviceTier : String) : Option CatalogModel :=
  (tables.overrideFor model serviceTier).or
    (tables.openaiModelsCatalog.find? (·.modelId = model))

end PricingTables

def BillingEnv.fallbackPricing (env : BillingEnv) : Option TokenPriceMicrousd := do
  let input ← env.billingDefaultInputPriceMicrocredits
  let output ← env.billingDefaultOutputPriceMicrocredits
  let cached := max (env.billingDefaultCachedInputPriceMicrocredits.getD
    (I64.ofInt (input.val.tdiv 10))) 0
  pure ⟨input, cached, output⟩

section Resolve

variable (normalizeCached : I64 → I64 → I64) (tables : PricingTables) (env : BillingEnv)

def resolveUsagePricing (model : String) (serviceTier : Option String) :
    Result (Option TokenPriceMicrousd) :=
  let normalizedModel := Text.trim model
  if normalizedModel = "" then .ok none
  else
    match tables.usageRowFor normalizedModel (normalizeBillingServiceTier serviceTier) with
    | some row => (priceOfRow normalizeCached row).map some
    | none => .ok env.fallbackPricing

def resolveRequestLogCost (row : RequestLogRow) : Result (Option I64) :=
  match Text.trimmed? row.model with
  | none => .ok none
  | some model => do
    let pricing ← resolveUsagePricing normalizeCached tables env model row.serviceTier
    pure (pricing.map fun pricing =>
      calculateEstimatedCostMicrousd (row.inputTokens.getD 0) (row.cachedInputTokens.getD 0)
        (row.outputTokens.getD 0) pricing)

end Resolve

namespace SqliteUsageDb

def normalizeCachedInputPriceMicrousd (inputPrice cachedInputPrice : I64) : I64 :=
  if cachedInputPrice ≤ 0 then I64.ofInt ((max inputPrice 0).val.tdiv 10)
  else max cachedInputPrice 0

def ingestPriced (tables : PricingTables) (env : BillingEnv) (db : SqliteUsageDb)
    (event : RequestLogEvent) : Result SqliteUsageDb := do
  let cost ← resolveRequestLogCost normalizeCachedInputPriceMicrousd tables env
    (requestLogRowFromEvent event event.tenantId event.apiKeyId)
  pure (ingestRequestLog (fun _ => cost) db event)

end SqliteUsageDb

namespace PgUsageDb

def normalizeCachedInputPriceMicrousd (inputPrice cachedInputPrice : I64) : I64 :=
  if cachedInputPrice ≤ 0 then max inputPrice 0 else cachedInputPrice

def ingestPriced (tables : PricingTables) (env : BillingEnv) (db : PgUsageDb)
    (event : RequestLogEvent) : Result PgUsageDb := do
  let cost ← resolveRequestLogCost normalizeCachedInputPriceMicrousd tables env
    (requestLogRowFromEvent event event.tenantId event.apiKeyId)
  ingestRequestLog (fun _ => cost) db event

end PgUsageDb

/-! ## Stored alike -/

def pricedRow (tables : PricingTables) (event : RequestLogEvent) : Option CatalogModel :=
  (Text.trimmed? event.model).bind fun model =>
    if Text.trim model = "" then none
    else tables.usageRowFor (Text.trim model) (normalizeBillingServiceTier event.serviceTier)

def CatalogModel.priced (row : CatalogModel) : Bool :=
  row.inputPriceMicrocredits.isSome && row.cachedInputPriceMicrocredits.isSome &&
    row.outputPriceMicrocredits.isSome

def costOfEvent (event : RequestLogEvent) (pricing : TokenPriceMicrousd) : I64 :=
  calculateEstimatedCostMicrousd (event.inputTokens.getD 0) (event.cachedInputTokens.getD 0)
    (event.outputTokens.getD 0) pricing

/-- Both repositories take the event and store its row, at the same cost; without a price, the
cost is empty or that of the prices of the environment. -/
def IngestedAlike (tables : PricingTables) (env : BillingEnv) (pg : PgUsageDb)
    (sqlite : SqliteUsageDb) (event : RequestLogEvent) : Prop :=
  ∃ cost pg' sqlite', pg.ingestPriced tables env event = .ok pg' ∧
    sqlite.ingestPriced tables env event = .ok sqlite' ∧
    PgUsageDb.logRow (fun _ => cost) event ∈ pg'.usageRequestLogs ∧
    PgUsageDb.logRow (fun _ => cost) event ∈ sqlite'.usageRequestLogs.map (·.log) ∧
    ((∀ row, pricedRow tables event = some row → row.priced = false) →
      cost = none ∨ cost = env.fallbackPricing.map (costOfEvent event))

def cachedTokens (event : RequestLogEvent) : I64 :=
  min (max (event.cachedInputTokens.getD 0) 0) (max (event.inputTokens.getD 0) 0)

/-- The exact sum of the three charges, with a tenth of the price of input for cached input. -/
def chargesAtTenth (event : RequestLogEvent) (input output : I64) : Int :=
  (chargeTokensByPerMillionPrice
      ((max (event.inputTokens.getD 0) 0).satSub (cachedTokens event)) input).val +
    (chargeTokensByPerMillionPrice (cachedTokens event)
      (I64.ofInt ((max input 0).val.tdiv 10))).val +
    (chargeTokensByPerMillionPrice (max (event.outputTokens.getD 0) 0) output).val

/-- The row has its three prices, and one for cached input unless that makes no difference: the
cached tokens come to less than half a unit at the price of input, or the cost is out of the range
of 64 bits anyway. -/
def PricedAlike (event : RequestLogEvent) (row : CatalogModel) : Prop :=
  ∃ input cached output, row.inputPriceMicrocredits = some input ∧
    row.cachedInputPriceMicrocredits = some cached ∧
    row.outputPriceMicrocredits = some output ∧
    (0 < cached ∨ (cachedTokens event).val * (max input 0).val < 500000 ∨
      9223372036854775807 ≤ chargesAtTenth event input output)

/-- The latencies of an event are in the range of a `BIGINT`. -/
def LatenciesFit (event : RequestLogEvent) : Prop :=
  event.latencyMs ≤ 9223372036854775807 ∧
    ∀ latency, event.firstTokenLatencyMs = some latency → latency ≤ 9223372036854775807

/-! ## Charges -/

section Charges

theorem chargeTokens_val_eq_min (tokens price : I64) :
    (chargeTokensByPerMillionPrice tokens price).val =
      min i64Max ((max tokens.val 0 * max price.val 0 + 500000) / 1000000) := by
  rw [chargeTokens_val, round_exactCharge]

/-- A tenth of a price makes no difference to a charge exactly below half a unit. -/
theorem chargeTokens_tenth_iff {tokens price : I64} (htokens : 0 ≤ tokens.val)
    (hprice : 0 ≤ price.val) :
    (chargeTokensByPerMillionPrice tokens (I64.ofInt (price.val.tdiv 10))).val =
        (chargeTokensByPerMillionPrice tokens price).val ↔
      tokens.val * price.val < 500000 ∨
        9223372036854775807 ≤
          (chargeTokensByPerMillionPrice tokens (I64.ofInt (price.val.tdiv 10))).val := by
  have hmaxTokens : max tokens.val 0 = tokens.val := max_eq_left htokens
  have hmaxPrice : max price.val 0 = price.val := max_eq_left hprice
  have htenth : max (I64.ofInt (price.val.tdiv 10)).val 0 = price.val / 10 := by
    have hle := price.le_hi
    rw [Int.tdiv_eq_ediv_of_nonneg hprice, I64.val_ofInt_of_mem (by omega) (by omega)]
    omega
  have hsmall : 10 * (tokens.val * (price.val / 10)) ≤ tokens.val * price.val := by
    have hle : price.val / 10 * 10 ≤ price.val := by omega
    calc 10 * (tokens.val * (price.val / 10))
        = tokens.val * (price.val / 10 * 10) := by
          rw [Int.mul_left_comm, Int.mul_comm 10]
      _ ≤ tokens.val * price.val := Int.mul_le_mul_of_nonneg_left hle htokens
  have hnonneg : 0 ≤ tokens.val * (price.val / 10) := Int.mul_nonneg htokens (by omega)
  rw [chargeTokens_val_eq_min, chargeTokens_val_eq_min, hmaxTokens, hmaxPrice, htenth, i64Max]
  generalize tokens.val * (price.val / 10) = small at *
  generalize tokens.val * price.val = large at *
  constructor
  · intro heq
    omega
  · rintro (hhalf | hcut)
    · omega
    · omega

theorem chargeTokens_tenth_le (tokens : I64) {price : I64} (hprice : 0 ≤ price.val) :
    (chargeTokensByPerMillionPrice tokens (I64.ofInt (price.val.tdiv 10))).val ≤
      (chargeTokensByPerMillionPrice tokens price).val := by
  have hle := price.le_hi
  have hcheaper : max (I64.ofInt (price.val.tdiv 10)).val 0 ≤ max price.val 0 := by
    rw [Int.tdiv_eq_ediv_of_nonneg hprice, I64.val_ofInt_of_mem (by omega) (by omega)]
    omega
  have hproduct : max tokens.val 0 * max (I64.ofInt (price.val.tdiv 10)).val 0 ≤
      max tokens.val 0 * max price.val 0 :=
    Int.mul_le_mul_of_nonneg_left hcheaper (le_max_right tokens.val 0)
  rw [chargeTokens_val_eq_min, chargeTokens_val_eq_min, i64Max]
  omega

theorem val_satAdd_charges {a b c : I64} (ha : 0 ≤ a.val) (hb : 0 ≤ b.val) (hc : 0 ≤ c.val) :
    ((a.satAdd b).satAdd c).val = min 9223372036854775807 (a.val + b.val + c.val) := by
  rw [Bounded.val_satAdd, Bounded.val_satAdd]
  unfold clamp
  omega

theorem costOfEvent_val (event : RequestLogEvent) (input cached output : I64) :
    (costOfEvent event ⟨input, cached, output⟩).val = min 9223372036854775807
      ((chargeTokensByPerMillionPrice
          ((max (event.inputTokens.getD 0) 0).satSub (cachedTokens event)) input).val +
        (chargeTokensByPerMillionPrice (cachedTokens event) cached).val +
        (chargeTokensByPerMillionPrice (max (event.outputTokens.getD 0) 0) output).val) :=
  val_satAdd_charges (chargeTokensByPerMillionPrice_nonneg _ _)
    (chargeTokensByPerMillionPrice_nonneg _ _) (chargeTokensByPerMillionPrice_nonneg _ _)

/-- When the two prices for cached input give the same cost. -/
theorem costs_eq_iff (event : RequestLogEvent) (input cached output : I64) :
    costOfEvent event
        ⟨input, SqliteUsageDb.normalizeCachedInputPriceMicrousd input cached, output⟩ =
      costOfEvent event
        ⟨input, PgUsageDb.normalizeCachedInputPriceMicrousd input cached, output⟩ ↔
      0 < cached ∨ (cachedTokens event).val * (max input 0).val < 500000 ∨
        9223372036854775807 ≤ chargesAtTenth event input output := by
  unfold SqliteUsageDb.normalizeCachedInputPriceMicrousd
    PgUsageDb.normalizeCachedInputPriceMicrousd
  by_cases hcached : cached ≤ 0
  · have htokens : 0 ≤ (cachedTokens event).val := by
      have hle : (0 : I64) ≤ cachedTokens event :=
        le_min (le_max_right _ _) (le_max_right _ _)
      exact hle
    have hprice : 0 ≤ (max input 0).val := le_max_right input 0
    have htenth := chargeTokens_tenth_iff htokens hprice
    have hle := chargeTokens_tenth_le (cachedTokens event) hprice
    have hinput := chargeTokensByPerMillionPrice_nonneg
      ((max (event.inputTokens.getD 0) 0).satSub (cachedTokens event)) input
    have houtput := chargeTokensByPerMillionPrice_nonneg
      (max (event.outputTokens.getD 0) 0) output
    rw [if_pos hcached, if_pos hcached, Bounded.eq_iff_val, costOfEvent_val, costOfEvent_val,
      chargesAtTenth]
    simp only [not_lt.2 hcached, false_or]
    constructor
    · intro heq
      by_cases hsame : (chargeTokensByPerMillionPrice (cachedTokens event)
          (I64.ofInt ((max input 0).val.tdiv 10))).val =
          (chargeTokensByPerMillionPrice (cachedTokens event) (max input 0)).val
      · rcases htenth.1 hsame with hhalf | hcut
        · exact Or.inl hhalf
        · right
          omega
      · right
        omega
    · rintro (hhalf | hcut)
      · rw [htenth.2 (Or.inl hhalf)]
      · omega
  · have hpos : 0 < cached := not_le.1 hcached
    rw [if_neg hcached, if_neg hcached, max_eq_left hpos.le]
    simp [hpos]

end Charges

/-! ## Resolving -/

section Resolving

variable {normalizeCached : I64 → I64 → I64} {tables : PricingTables} {env : BillingEnv}
  {event : RequestLogEvent}

theorem priceOfRow_eq_ok {row : CatalogModel} {pricing : TokenPriceMicrousd} :
    priceOfRow normalizeCached row = .ok pricing ↔
      ∃ input cached output, row.inputPriceMicrocredits = some input ∧
        row.cachedInputPriceMicrocredits = some cached ∧
        row.outputPriceMicrocredits = some output ∧
        pricing = ⟨input, normalizeCached input cached, output⟩ := by
  rcases row with ⟨modelId, input, cached, output⟩
  cases input <;> cases cached <;> cases output <;>
    simp [priceOfRow, PricingTables.catalogPrice, bind, Except.bind, pure, Except.pure, eq_comm]

/-- The cost of an event that is priced by a row. -/
theorem resolve_of_row {row : CatalogModel} (hrow : pricedRow tables event = some row) :
    resolveRequestLogCost normalizeCached tables env
        (requestLogRowFromEvent event event.tenantId event.apiKeyId) =
      (priceOfRow normalizeCached row).map fun pricing => some (costOfEvent event pricing) := by
  rcases Option.bind_eq_some_iff.1 hrow with ⟨model, hmodel, hfound⟩
  split_ifs at hfound with hblank
  simp only [resolveRequestLogCost, requestLogRowFromEvent, hmodel, resolveUsagePricing,
    hblank, if_false, hfound]
  cases priceOfRow normalizeCached row with
  | error message => rfl
  | ok pricing => rfl

variable (env) in
/-- Without a row, the cost is empty or that of the prices of the environment. -/
theorem resolve_of_none (hrow : pricedRow tables event = none) :
    ∃ cost, (cost = none ∨ cost = env.fallbackPricing.map (costOfEvent event)) ∧
      ∀ normalizeCached, resolveRequestLogCost normalizeCached tables env
        (requestLogRowFromEvent event event.tenantId event.apiKeyId) = .ok cost := by
  cases hmodel : Text.trimmed? event.model with
  | none =>
      refine ⟨none, Or.inl rfl, fun normalizeCached => ?_⟩
      simp only [resolveRequestLogCost, requestLogRowFromEvent, hmodel]
  | some model =>
      rw [pricedRow, hmodel, Option.bind_some] at hrow
      split_ifs at hrow with hblank
      · refine ⟨none, Or.inl rfl, fun normalizeCached => ?_⟩
        simp only [resolveRequestLogCost, requestLogRowFromEvent, hmodel, resolveUsagePricing,
          hblank, if_true]
        rfl
      · refine ⟨_, Or.inr rfl, fun normalizeCached => ?_⟩
        simp only [resolveRequestLogCost, requestLogRowFromEvent, hmodel, resolveUsagePricing,
          hblank, if_false, hrow]
        rfl

end Resolving

/-! ## Storing -/

section Storing

variable {event : RequestLogEvent} {cost : RequestLogRow → Option I64}

theorem asI64_eq_ok {value : Nat} {field : String} {read : Nat} :
    asI64 value field = .ok read ↔ value ≤ 9223372036854775807 ∧ read = value := by
  unfold asI64
  split_ifs with h
  · simp [h, eq_comm]
  · simp [h]

variable (event) in
theorem requestCount_usageRows (tenantId apiKeyId : Option Uuid) :
    (∀ row ∈ (usageRowsFromRequestLogEvent event tenantId apiKeyId).tenantApiKeyRows,
      row.requestCount = 1) ∧
    ∀ row ∈ (usageRowsFromRequestLogEvent event tenantId apiKeyId).tenantAccountRows,
      row.requestCount = 1 := by
  cases tenantId with
  | none =>
      simp [usageRowsFromRequestLogEvent, aggregateByHour, bucketCounts, Tally.groupSums,
        UsageAggregationEvent.tenantBucket, UsageAggregationEvent.tenantAccountBucket,
        UsageAggregationEvent.fromRequestLogEvent]
  | some tenant =>
      cases apiKeyId with
      | _ =>
          simp [usageRowsFromRequestLogEvent, aggregateByHour, bucketCounts, Tally.groupSums,
            Tally.add, UsageAggregationEvent.tenantBucket,
            UsageAggregationEvent.tenantAccountBucket,
            UsageAggregationEvent.fromRequestLogEvent]

theorem foldlM_ok {β γ : Type} (step : β → γ → Result β) {rows : List γ}
    (h : ∀ row ∈ rows, ∀ table, ∃ table', step table row = .ok table') (table : β) :
    ∃ table', rows.foldlM step table = .ok table' := by
  induction rows generalizing table with
  | nil => exact ⟨table, rfl⟩
  | cons row rows ih =>
      rcases h row List.mem_cons_self table with ⟨table', htable⟩
      rcases ih (fun row' hrow' => h row' (List.mem_cons_of_mem _ hrow')) table' with
        ⟨table'', htable'⟩
      exact ⟨table'', by rw [List.foldlM_cons, htable]; exact htable'⟩

theorem PgUsageDb.latenciesFit_of_ingest {db db' : PgUsageDb}
    (h : ingestRequestLog cost db event = .ok db') : LatenciesFit event := by
  simp only [ingestRequestLog, Result.bind_eq_ok] at h
  rcases h with ⟨_, hfirst, _, hlatency, -⟩
  refine ⟨(asI64_eq_ok.1 hlatency).1, fun latency hsome => ?_⟩
  change event.firstTokenLatencyMs.mapM _ = _ at hfirst
  rw [hsome, Option.mapM_some] at hfirst
  by_contra hnot
  rw [asI64, if_neg hnot] at hfirst
  cases hfirst

/-- A new event with latencies in the range is stored. -/
theorem PgUsageDb.ingest_new {db : PgUsageDb}
    (hnew : ∀ row ∈ db.usageRequestLogs, row.id ≠ event.id) (hfit : LatenciesFit event) :
    ∃ db', ingestRequestLog cost db event = .ok db' := by
  have hlatency : asI64 (logRow cost event).latencyMs "latency_ms" = .ok event.latencyMs :=
    asI64_eq_ok.2 ⟨hfit.1, rfl⟩
  have hfirst : ∃ read, (event.firstTokenLatencyMs.mapM fun value =>
      asI64 value "first_token_latency_ms" : Result (Option Nat)) = .ok read := by
    cases hsome : event.firstTokenLatencyMs with
    | none => exact ⟨none, rfl⟩
    | some latency =>
        refine ⟨some latency, ?_⟩
        rw [Option.mapM_some, asI64, if_pos (hfit.2 latency hsome)]
        rfl
  have hany : ¬ (db.usageRequestLogs.any fun r => r.id = (logRow cost event).id) = true := by
    rw [any_id_eq]
    intro hmem
    rcases List.mem_map.1 hmem with ⟨row, hrow, hid⟩
    exact hnew row hrow hid
  rcases hfirst with ⟨read, hread⟩
  obtain ⟨hkeyRows, haccountRows⟩ := requestCount_usageRows
    event event.tenantId event.apiKeyId
  rcases foldlM_ok upsertHourlyTenantApiKeyRow (fun row hrow table =>
    ⟨_, by rw [upsertHourlyTenantApiKeyRow, hkeyRows row hrow]; rfl⟩)
    db.usageHourlyTenantApiKey with ⟨keyTable, hkeyTable⟩
  rcases foldlM_ok upsertHourlyTenantAccountRow (fun row hrow table =>
    ⟨_, by rw [upsertHourlyTenantAccountRow, haccountRows row hrow]; rfl⟩)
    db.usageHourlyTenantAccount with ⟨accountTable, haccountTable⟩
  have haccounts : (usageRowsFromRequestLogEvent event event.tenantId
      event.apiKeyId).accountRows.foldlM upsertHourlyAccountRow db.usageHourlyAccount =
      .ok (Tally.add (event.accountId, truncateToHour event.createdAt) 1
        db.usageHourlyAccount) := by
    rw [accountRows_usageRows]
    rfl
  refine ⟨⟨db.usageRequestLogs ++ [logRow cost event],
    Tally.add (event.accountId, truncateToHour event.createdAt) 1 db.usageHourlyAccount,
    keyTable, accountTable⟩, ?_⟩
  refine Result.bind_eq_ok.2 ⟨read, hread, Result.bind_eq_ok.2 ⟨_, hlatency, ?_⟩⟩
  rw [if_neg hany]
  exact Result.bind_eq_ok.2 ⟨_, haccounts, Result.bind_eq_ok.2 ⟨_, hkeyTable,
    Result.bind_eq_ok.2 ⟨_, haccountTable, rfl⟩⟩⟩

/-- The row of a new event is the one that was stored for it. -/
theorem PgUsageDb.mem_ingest_new {db db' : PgUsageDb} {priced stored : Option I64}
    (hnew : ∀ row ∈ db.usageRequestLogs, row.id ≠ event.id)
    (h : ingestRequestLog (fun _ => priced) db event = .ok db') :
    logRow (fun _ => stored) event ∈ db'.usageRequestLogs ↔ stored = priced := by
  have hstored := ingestRequestLog_eq_ok h
  rw [if_neg fun hmem => by
    rcases List.mem_map.1 hmem with ⟨row, hrow, hid⟩
    exact hnew row hrow hid] at hstored
  rw [hstored.1, List.mem_append, List.mem_singleton]
  constructor
  · rintro (hmem | heq)
    · exact absurd rfl (hnew _ hmem)
    · exact congrArg RequestLogRow.estimatedCostMicrousd heq
  · rintro rfl
    exact Or.inr rfl

theorem SqliteUsageDb.mem_ingest_new {db : SqliteUsageDb} {priced stored : Option I64}
    (hnew : ∀ row ∈ db.usageRequestLogs, row.log.id ≠ event.id) :
    PgUsageDb.logRow (fun _ => stored) event ∈
        (ingestRequestLog (fun _ => priced) db event).usageRequestLogs.map (·.log) ↔
      stored = priced := by
  have hany : ¬ (db.usageRequestLogs.any fun r => r.log.id = event.id) = true := by
    rw [any_id_eq]
    intro hmem
    rcases List.mem_map.1 hmem with ⟨row, hrow, hid⟩
    exact hnew row hrow hid
  have hlogs : (ingestRequestLog (fun _ => priced) db event).usageRequestLogs.map (·.log) =
      db.usageRequestLogs.map (·.log) ++ [PgUsageDb.logRow (fun _ => priced) event] := by
    have hingest : ingestRequestLog (fun _ => priced) db event =
        ⟨db.usageRequestLogs ++ [⟨PgUsageDb.logRow (fun _ => priced) event,
          timestamp event.createdAt, timestamp (truncateToHour event.createdAt)⟩]⟩ :=
      if_neg hany
    rw [hingest, List.map_append]
    rfl
  rw [hlogs, List.mem_append, List.mem_singleton]
  constructor
  · rintro (hmem | heq)
    · rcases List.mem_map.1 hmem with ⟨row, hrow, hlog⟩
      exact absurd (congrArg RequestLogRow.id hlog) (hnew row hrow)
    · exact congrArg RequestLogRow.estimatedCostMicrousd heq
  · rintro rfl
    exact Or.inr rfl

end Storing

/-- A new event is stored alike exactly when its latencies are in the range and the row that it is
priced by has all its prices, of which the one for cached input must make no difference where it is
not set. -/
theorem ingestedAlike_iff (tables : PricingTables) (env : BillingEnv) {pg : PgUsageDb}
    {sqlite : SqliteUsageDb} {event : RequestLogEvent}
    (hpg : ∀ row ∈ pg.usageRequestLogs, row.id ≠ event.id)
    (hsqlite : ∀ row ∈ sqlite.usageRequestLogs, row.log.id ≠ event.id) :
    IngestedAlike tables env pg sqlite event ↔
      LatenciesFit event ∧
        ∀ row, pricedRow tables event = some row → PricedAlike event row := by
  constructor
  · rintro ⟨cost, pg', sqlite', hpg', hsqlite', hstored, hstored', -⟩
    rcases Result.bind_eq_ok.1 hpg' with ⟨priced, hpriced, hingest⟩
    rcases Result.bind_eq_ok.1 hsqlite' with ⟨priced', hpriced', hingest'⟩
    rcases hingest' with ⟨rfl⟩
    rw [PgUsageDb.mem_ingest_new hpg hingest] at hstored
    rw [SqliteUsageDb.mem_ingest_new hsqlite] at hstored'
    subst hstored
    subst hstored'
    refine ⟨PgUsageDb.latenciesFit_of_ingest hingest, fun row hrow => ?_⟩
    rw [resolve_of_row hrow] at hpriced hpriced'
    cases hprice : priceOfRow PgUsageDb.normalizeCachedInputPriceMicrousd row with
    | error message => rw [hprice] at hpriced; cases hpriced
    | ok pricing =>
        rcases priceOfRow_eq_ok.1 hprice with ⟨input, cached, output, hi, hc, ho, rfl⟩
        have hprice' : priceOfRow SqliteUsageDb.normalizeCachedInputPriceMicrousd row =
            .ok ⟨input, SqliteUsageDb.normalizeCachedInputPriceMicrousd input cached, output⟩ :=
          priceOfRow_eq_ok.2 ⟨input, cached, output, hi, hc, ho, rfl⟩
        rw [hprice] at hpriced
        rw [hprice'] at hpriced'
        refine ⟨input, cached, output, hi, hc, ho, (costs_eq_iff event input cached output).1 ?_⟩
        exact Option.some.inj ((Except.ok.inj hpriced').trans (Except.ok.inj hpriced).symm)
  · rintro ⟨hfit, halike⟩
    have hcosts : ∃ cost,
        ((∀ row, pricedRow tables event = some row → row.priced = false) →
          cost = none ∨ cost = env.fallbackPricing.map (costOfEvent event)) ∧
        resolveRequestLogCost PgUsageDb.normalizeCachedInputPriceMicrousd tables env
          (requestLogRowFromEvent event event.tenantId event.apiKeyId) = .ok cost ∧
        resolveRequestLogCost SqliteUsageDb.normalizeCachedInputPriceMicrousd tables env
          (requestLogRowFromEvent event event.tenantId event.apiKeyId) = .ok cost := by
      cases hrow : pricedRow tables event with
      | none =>
          rcases resolve_of_none env hrow with ⟨cost, hcost, hresolve⟩
          exact ⟨cost, fun _ => hcost, hresolve _, hresolve _⟩
      | some row =>
          rcases halike row hrow with ⟨input, cached, output, hi, hc, ho, hsame⟩
          refine ⟨_, fun hunpriced => ?_, by
            rw [resolve_of_row hrow, priceOfRow_eq_ok.2 ⟨input, cached, output, hi, hc, ho, rfl⟩]
            rfl, by
            rw [resolve_of_row hrow, priceOfRow_eq_ok.2 ⟨input, cached, output, hi, hc, ho, rfl⟩]
            exact congrArg (fun cost => Except.ok (some cost))
              ((costs_eq_iff event input cached output).2 hsame)⟩
          have hpriced := hunpriced row rfl
          simp [CatalogModel.priced, hi, hc, ho] at hpriced
    rcases hcosts with ⟨cost, hcost, hresolve, hresolve'⟩
    have hnew : ∃ pg', PgUsageDb.ingestRequestLog (fun _ => cost) pg event = .ok pg' :=
      PgUsageDb.ingest_new hpg hfit
    rcases hnew with ⟨pg', hpg'⟩
    refine ⟨cost, pg', _, ?_, ?_, (PgUsageDb.mem_ingest_new hpg hpg').2 rfl,
      (SqliteUsageDb.mem_ingest_new hsqlite).2 rfl, hcost⟩
    · exact Result.bind_eq_ok.2 ⟨cost, hresolve, hpg'⟩
    · exact Result.bind_eq_ok.2 ⟨cost, hresolve', rfl⟩

/-! ## A model without prices -/

def oneModel (input cached output : Option I64) : PricingTables where
  modelPricingOverrides := []
  openaiModelsCatalog := [⟨"gpt-5.4", input, cached, output⟩]
  billingPricingRules := []
  apiKeys := []
  apiKeyGroups := []
  apiKeyGroupModelPolicies := []

def noBillingEnv : BillingEnv := ⟨none, none, none, none, none⟩

def pricedEvent : RequestLogEvent where
  id := ⟨"event"⟩
  accountId := ⟨"account"⟩
  tenantId := none
  apiKeyId := none
  eventVersion := 1
  path := "/v1/responses"
  method := "POST"
  statusCode := 200
  latencyMs := 40
  isStream := false
  errorCode := none
  requestId := none
  model := some "gpt-5.4"
  serviceTier := none
  inputTokens := some 1000
  cachedInputTokens := some 500
  outputTokens := some 10
  reasoningTokens := none
  firstTokenLatencyMs := none
  billingPhase := none
  authorizationId := none
  captureStatus := none
  createdAt := 0

theorem pricedRow_oneModel (input cached output : Option I64) :
    pricedRow (oneModel input cached output) pricedEvent =
      some ⟨"gpt-5.4", input, cached, output⟩ := by
  have hmodel : Text.trimmed? (some "gpt-5.4") = some "gpt-5.4" := by decide +kernel
  have htrim : Text.trim "gpt-5.4" = "gpt-5.4" := by decide +kernel
  have htier : normalizeBillingServiceTier none = "default" := by decide +kernel
  simp [pricedRow, pricedEvent, hmodel, htrim, htier, oneModel, PricingTables.usageRowFor,
    PricingTables.overrideFor, pricingOverrideLookupTiers]

theorem latenciesFit_pricedEvent : LatenciesFit pricedEvent :=
  ⟨by decide, by rintro latency ⟨⟩⟩

theorem ingestedAlike_oneModel : IngestedAlike
    (oneModel (some 1250000) (some 125000) (some 10000000)) noBillingEnv {} {} pricedEvent := by
  refine (ingestedAlike_iff _ noBillingEnv (by rintro row ⟨⟩) (by rintro row ⟨⟩)).2
    ⟨latenciesFit_pricedEvent, fun row hrow => ?_⟩
  rw [pricedRow_oneModel] at hrow
  rcases hrow with ⟨rfl⟩
  exact ⟨_, _, _, rfl, rfl, rfl, Or.inl (by decide)⟩

/-- A model that is published without prices loses the event. -/
theorem unpriced_not_ingested :
    ¬ IngestedAlike (oneModel none none none) noBillingEnv {} {} pricedEvent := by
  rintro ⟨cost, pg', sqlite', hpg, -⟩
  rcases Result.bind_eq_ok.1 hpg with ⟨priced, hpriced, -⟩
  rw [resolve_of_row (pricedRow_oneModel none none none)] at hpriced
  cases hpriced

end CodexPool
