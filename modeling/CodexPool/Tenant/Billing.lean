import CodexPool.Tenant.Database

/-!
# Billing operations

The operations on holds and credits: `billingAuthorize` reserves credit for a
request, `billingCapture` charges its usage, `billingRelease` returns what is
left of the reservation, and `billingReconcileOnce` closes the holds that were
left open. Each of them is one transaction. `billingReconcileRequestFact`
settles a hold from the request log and chains several of them.
-/

namespace CodexPool

open Saturating

/-- What an operation receives besides its request: the clock readings, a new
identifier, the tables and variables that pricing reads, and the formatting
and hashing functions. -/
structure BillingCall where
  now : DateTime
  sessionNow : DateTime
  newId : Uuid
  tables : PricingTables
  env : BillingEnv
  rfc3339 : DateTime → String
  formatDate : Int → String
  sha256Prefix : String → Nat

/-! ## Requests and responses -/

structure BillingAuthorizeRequest where
  tenantId : Uuid
  apiKeyId : Option Uuid
  requestId : String
  traceRequestId : Option String
  model : String
  serviceTier : Option String
  sessionKey : Option String
  requestKind : Option String
  reservedMicrocredits : I64
  ttlSec : Option Nat
  isStream : Bool

structure BillingAuthorizeResponse where
  authorizationId : Uuid
  tenantId : Uuid
  requestId : String
  status : AuthorizationStatus
  reservedMicrocredits : I64
  capturedMicrocredits : I64
  balanceMicrocredits : I64
  expiresAt : DateTime

structure BillingCaptureRequest where
  tenantId : Uuid
  apiKeyId : Option Uuid
  requestId : String
  model : String
  serviceTier : Option String
  sessionKey : Option String
  requestKind : Option String
  inputTokens : I64
  cachedInputTokens : I64
  outputTokens : I64
  reasoningTokens : I64
  isStream : Bool

structure BillingCaptureResponse where
  authorizationId : Uuid
  tenantId : Uuid
  requestId : String
  status : AuthorizationStatus
  reservedMicrocredits : I64
  capturedMicrocredits : I64
  chargedMicrocredits : I64
  balanceMicrocredits : I64
deriving DecidableEq

structure BillingReleaseRequest where
  tenantId : Uuid
  requestId : String
  isStream : Bool
  releaseReason : Option String
  upstreamStatusCode : Option Nat
  upstreamErrorCode : Option String
  failoverAction : Option String
  failoverReasonClass : Option String
  recoveryAction : Option String
  recoveryOutcome : Option String
  crossAccountFailoverAttempted : Option Bool

structure BillingReleaseResponse where
  authorizationId : Uuid
  tenantId : Uuid
  requestId : String
  status : AuthorizationStatus
  reservedMicrocredits : I64
  capturedMicrocredits : I64
  releasedMicrocredits : I64
  balanceMicrocredits : I64

structure BillingReconcileRequest where
  staleSec : Nat
  batchSize : Nat

structure BillingReconcileStats where
  scanned : U64 := 0
  adjusted : U64 := 0
  releasedAuthorizations : U64 := 0
  adjustedMicrocreditsTotal : I64 := 0

structure BillingReconcileFactRequest where
  tenantId : Uuid
  apiKeyId : Option Uuid
  requestId : String
  model : Option String
  serviceTier : Option String
  inputTokens : Option I64
  cachedInputTokens : Option I64
  outputTokens : Option I64
  reasoningTokens : Option I64

structure AdminRechargeRequest where
  amountMicrocredits : I64
  reason : Option String

structure AdminRechargeResponse where
  tenantId : Uuid
  amountMicrocredits : I64
  balanceMicrocredits : I64

structure TenantDailyCheckinResponse where
  tenantId : Uuid
  localDate : Int
  rewardMicrocredits : I64
  balanceMicrocredits : I64

/-! ## Reading authorizations -/

structure BillingAuthorizationRecord where
  id : Uuid
  tenantId : Uuid
  requestId : String
  apiKeyId : Option Uuid
  model : Option String
  reservedMicrocredits : I64
  capturedMicrocredits : I64
  status : AuthorizationStatus
  expiresAt : DateTime
  metaJson : Option Json

/-- A row of a result set: the columns that were selected, and the stored row
they were selected from. -/
structure PgRow where
  columns : List String
  row : AuthorizationRow

/-- Reads a column. A column that was not selected is an error. -/
def PgRow.tryGet {α : Type} (r : PgRow) (column : String) (f : AuthorizationRow → α) :
    Result α :=
  if column ∈ r.columns then .ok (f r.row)
  else .error ("no column found for name: " ++ column)

def PgRow.authorizationRecord (r : PgRow) : Result BillingAuthorizationRecord := do
  let id ← r.tryGet "id" (·.id)
  let tenantId ← r.tryGet "tenant_id" (·.tenantId)
  let requestId ← r.tryGet "request_id" (·.requestId)
  let apiKeyId ← r.tryGet "api_key_id" (·.apiKeyId)
  let model ← r.tryGet "model" (·.model)
  let reservedMicrocredits ← r.tryGet "reserved_microcredits" (·.reservedMicrocredits)
  let capturedMicrocredits ← r.tryGet "captured_microcredits" (·.capturedMicrocredits)
  let status ← r.tryGet "status" (·.status)
  let expiresAt ← r.tryGet "expires_at" (·.expiresAt)
  let metaJson ← r.tryGet "meta_json" (·.metaJson)
  pure
    { id, tenantId, requestId, apiKeyId, model, reservedMicrocredits
      capturedMicrocredits, status, expiresAt, metaJson := some metaJson }

/-- The columns that the billing transactions select. -/
def authorizationColumns : List String :=
  ["id", "tenant_id", "api_key_id", "request_id", "model", "reserved_microcredits",
    "captured_microcredits", "status", "expires_at", "meta_json"]

/-- The columns that `fetchAuthorization` selects. -/
def fetchAuthorizationColumns : List String :=
  ["id", "tenant_id", "api_key_id", "request_id", "model", "reserved_microcredits",
    "captured_microcredits", "status", "expires_at"]

def fetchAuthorizationForUpdate (tenantId : Uuid) (requestId : String) :
    TxM (Option BillingAuthorizationRecord) := do
  let row ← TxM.query "failed to query billing authorization"
    fun db => db.findAuthorization tenantId requestId
  match row with
  | none => pure none
  | some row =>
    let record ← TxM.ofResult (PgRow.authorizationRecord ⟨authorizationColumns, row⟩)
    pure (some record)

def fetchAuthorization (tenantId : Uuid) (requestId : String) (db : Db) :
    Result (Option BillingAuthorizationRecord) :=
  match db.findAuthorization tenantId requestId with
  | none => .ok none
  | some row =>
    (PgRow.authorizationRecord ⟨fetchAuthorizationColumns, row⟩).map some

/-! ## Balances and sessions -/

def currentCreditBalanceForUpdate (tenantId : Uuid) : TxM I64 :=
  TxM.query "failed to lock tenant credit account for billing balance lookup"
    fun db => (db.creditAccounts tenantId).getD 0

structure CreditDeltaParams where
  tenantId : Uuid
  apiKeyId : Option Uuid
  eventType : LedgerEventType
  deltaMicrocredits : I64
  requestId : Option String
  model : Option String
  inputTokens : Option I64
  outputTokens : Option I64
  metaJson : Option Json
  now : DateTime

def CreditDeltaParams.ledgerRow (p : CreditDeltaParams) (nextBalance : I64) :
    LedgerRow :=
  { tenantId := p.tenantId
    apiKeyId := p.apiKeyId
    requestId := p.requestId
    eventType := p.eventType
    deltaMicrocredits := p.deltaMicrocredits
    balanceAfterMicrocredits := nextBalance
    inputTokens := p.inputTokens
    outputTokens := p.outputTokens
    model := p.model
    metaJson := p.metaJson.getD (.obj [])
    createdAt := p.now }

def applyCreditDeltaInner (params : CreditDeltaParams) : TxM I64 := do
  let existingBalance ←
    TxM.query "failed to lock tenant credit account for delta apply"
      fun db => (db.creditAccounts params.tenantId).getD 0
  let nextBalance := existingBalance.satAdd params.deltaMicrocredits
  if nextBalance < 0 then TxM.fail "insufficient credits"
  else
    let clipped := nextBalance.val ≠ existingBalance.val + params.deltaMicrocredits.val
    TxM.execute "failed to upsert tenant credit account"
      fun db => db.upsertCreditAccount params.tenantId nextBalance clipped
    let inserted ← TxM.insertLedger (params.ledgerRow nextBalance)
    pure (if inserted then nextBalance else existingBalance)

def defaultBillingSessionTtlSec : Nat := 24 * 60 * 60

/-- The pricing band of a session that has not expired. -/
def fetchBillingSessionForUpdate (call : BillingCall) (tenantId : Uuid)
    (sessionKey : String) : TxM (Option String) :=
  let normalizedSessionKey := Text.trim sessionKey
  if normalizedSessionKey = "" then pure none
  else
    TxM.query "failed to query billing session" fun db =>
      (db.sessions.find? fun r =>
        r.tenantId = tenantId ∧ r.sessionKey = normalizedSessionKey ∧
          call.sessionNow < r.expiresAt).map (·.pricingBand)

def upsertBillingSession (tenantId : Uuid) (sessionKey model : String)
    (band : BillingPricingBand) (now : DateTime) : TxM Unit :=
  let normalizedSessionKey := Text.trim sessionKey
  if normalizedSessionKey = "" then pure ()
  else
    TxM.execute "failed to upsert billing session" fun db =>
      some (db.upsertSession
        { tenantId, sessionKey := normalizedSessionKey, model
          pricingBand := band.asStr, enteredBandAt := now, lastSeenAt := now
          expiresAt := now + seconds defaultBillingSessionTtlSec })

def fetchSession (call : BillingCall) (tenantId : Uuid) (sessionKey : Option String) :
    TxM (Option String) :=
  match sessionKey with
  | some value => fetchBillingSessionForUpdate call tenantId value
  | none => pure none

def touchSession (tenantId : Uuid) (sessionKey : Option String) (model : String)
    (band : BillingPricingBand) (now : DateTime) : TxM Unit :=
  match sessionKey with
  | some value => upsertBillingSession tenantId value model band now
  | none => pure ()

/-! ## Grants -/

def adminRechargeTenant (call : BillingCall) (tenantId : Uuid)
    (req : AdminRechargeRequest) (db : Db) : Result AdminRechargeResponse × Db :=
  if req.amountMicrocredits ≤ 0 then (.error "amount_microcredits must be positive", db)
  else
    TxM.transaction (do
      let balanceAfter ← applyCreditDeltaInner
        { tenantId, apiKeyId := none, eventType := .recharge
          deltaMicrocredits := req.amountMicrocredits, requestId := none
          model := none, inputTokens := none, outputTokens := none
          metaJson := some
            (Json.ofFields [("reason", .str (req.reason.getD "admin recharge"))])
          now := call.now }
      pure
        { tenantId, amountMicrocredits := req.amountMicrocredits
          balanceMicrocredits := balanceAfter }) db

def checkinRewardMin : Int := 50000000

def checkinRewardMax : Int := 150000000

def deterministicDailyRewardMicrocredits (call : BillingCall) (tenantId : Uuid)
    (date : Int) : I64 :=
  let value := call.sha256Prefix (tenantId.text ++ ":" ++ call.formatDate date)
  let span := checkinRewardMax - checkinRewardMin + 1
  I64.ofInt (checkinRewardMin + (value : Int) % span)

/-- The date of a clock reading. -/
def dateNaive (now : DateTime) : Int := now / seconds 86400

def dailyCheckin (call : BillingCall) (tenantId : Uuid) (db : Db) :
    Result TenantDailyCheckinResponse × Db :=
  let localDate := dateNaive call.now
  let rewardMicrocredits := deterministicDailyRewardMicrocredits call tenantId localDate
  TxM.transaction (do
    let claimed ← TxM.query "failed to query existing tenant daily checkin" fun db =>
      db.checkins.any fun r => r.tenantId = tenantId ∧ r.localDate = localDate
    if claimed then TxM.fail "daily checkin already claimed"
    else
      TxM.execute "failed to insert tenant daily checkin record"
        fun db => db.insertCheckin { tenantId, localDate, rewardMicrocredits }
      let balanceAfter ← applyCreditDeltaInner
        { tenantId, apiKeyId := none, eventType := .checkin
          deltaMicrocredits := rewardMicrocredits, requestId := none
          model := none, inputTokens := none, outputTokens := none
          metaJson := some
            (Json.ofFields [("local_date", .str (call.formatDate localDate))])
          now := call.now }
      pure
        { tenantId, localDate, rewardMicrocredits
          balanceMicrocredits := balanceAfter }) db

/-! ## Authorize -/

def defaultBillingAuthorizationTtlSec : Nat := 15 * 60

def minBillingAuthorizationTtlSec : Nat := 30

def maxBillingAuthorizationTtlSec : Nat := 6 * 60 * 60

def authorizationReusableForAuthorize (status : AuthorizationStatus) : Bool :=
  status = .authorized

def authorizationCaptureIsIdempotent (status : AuthorizationStatus) : Bool :=
  status = .captured

/-- The time to live of an authorization, in seconds. -/
def BillingAuthorizeRequest.effectiveTtlSec (req : BillingAuthorizeRequest)
    (env : BillingEnv) : Nat :=
  let ttlSec := req.ttlSec.getD
    (env.authorizationTtlSec.getD defaultBillingAuthorizationTtlSec)
  min (max ttlSec minBillingAuthorizationTtlSec) maxBillingAuthorizationTtlSec

def jsonUuid (id : Uuid) : Json := .str id.text

def jsonString (s : Option String) : Json := Json.ofOption Json.str s

/-- The metadata fields that record how a request was priced. -/
def pricingFields (sessionKey : Option String) (requestKind : BillingRequestKind)
    (serviceTier : String) (decision : BillingPricingDecision) :
    List (String × Json) :=
  [("session_key", jsonString sessionKey),
    ("request_kind", .str requestKind.asStr),
    ("service_tier", .str serviceTier),
    ("pricing_band", .str decision.band.asStr),
    ("pricing_rule_id", Json.ofOption jsonUuid decision.matchedRuleId)]

def billingAuthorizeTx (call : BillingCall) (req : BillingAuthorizeRequest)
    (requestId model : String) : TxM BillingAuthorizeResponse := do
  let now := call.now
  let expiresAt := now + seconds (req.effectiveTtlSec call.env)
  let requestKind := BillingRequestKind.fromOptional req.requestKind
  let serviceTier := normalizeBillingServiceTier req.serviceTier
  let sessionKey := Text.trimmed? req.sessionKey
  let existing ← fetchAuthorizationForUpdate req.tenantId requestId
  match existing with
  | some existing =>
    if !authorizationReusableForAuthorize existing.status then
      TxM.fail ("billing authorization is in invalid status for authorize reuse: " ++
        existing.status.asStr)
    else
      let balanceMicrocredits ← currentCreditBalanceForUpdate req.tenantId
      pure
        { authorizationId := existing.id, tenantId := existing.tenantId
          requestId := existing.requestId, status := existing.status
          reservedMicrocredits := existing.reservedMicrocredits
          capturedMicrocredits := existing.capturedMicrocredits
          balanceMicrocredits, expiresAt := existing.expiresAt }
  | none =>
    let existingSession ← fetchSession call req.tenantId sessionKey
    let decision ← TxM.ofResult
      (call.tables.resolveModelPricingForRequest call.env model
        { serviceTier := some serviceTier, apiKeyId := req.apiKeyId, requestKind
          persistedBand := existingSession.map fun band =>
            BillingPricingBand.fromOptional (some band)
          actualInputTokens := none, phase := .authorize })
    let authorizationId := call.newId
    let priced := pricingFields sessionKey requestKind serviceTier decision
    let balanceMicrocredits ← applyCreditDeltaInner
      { tenantId := req.tenantId, apiKeyId := req.apiKeyId
        eventType := .authorizeHold
        deltaMicrocredits := -req.reservedMicrocredits, requestId := none
        model := some model, inputTokens := none, outputTokens := none
        metaJson := some (Json.ofFields
          ([("phase", .str "authorize"),
            ("authorization_id", jsonUuid authorizationId),
            ("request_id", .str requestId),
            ("trace_request_id", jsonString req.traceRequestId)] ++ priced ++
          [("is_stream", .bool req.isStream)]))
        now }
    TxM.execute "failed to insert billing authorization" fun db =>
      db.insertAuthorization
        { id := authorizationId, tenantId := req.tenantId, apiKeyId := req.apiKeyId
          requestId, model := some model
          reservedMicrocredits := req.reservedMicrocredits
          capturedMicrocredits := 0, status := .authorized, expiresAt
          metaJson := Json.ofFields
            ([("phase", .str "authorize"), ("source", .str "data_plane")] ++ priced ++
            [("is_stream", .bool req.isStream)])
          createdAt := now, updatedAt := now }
    touchSession req.tenantId sessionKey model decision.band now
    pure
      { authorizationId, tenantId := req.tenantId, requestId, status := .authorized
        reservedMicrocredits := req.reservedMicrocredits, capturedMicrocredits := 0
        balanceMicrocredits, expiresAt }

def billingAuthorize (call : BillingCall) (req : BillingAuthorizeRequest) (db : Db) :
    Result BillingAuthorizeResponse × Db :=
  let requestId := Text.trim req.requestId
  let model := Text.trim req.model
  if requestId = "" then (.error "request_id must not be empty", db)
  else if model = "" then (.error "model must not be empty", db)
  else if req.reservedMicrocredits ≤ 0 then
    (.error "reserved_microcredits must be positive", db)
  else (billingAuthorizeTx call req requestId model).transaction db

/-! ## Capture -/

/-- The token counts of a request as they are billed: no count is negative, the
cached tokens are part of the input, and reasoning is output. -/
structure BillableUsage where
  inputTokens : I64
  cachedInputTokens : I64
  billableInputTokens : I64
  outputTokens : I64
  reasoningTokens : I64
  billableOutputTokens : I64

def BillableUsage.ofTokens (input cachedInput output reasoning : I64) : BillableUsage :=
  let inputTokens := max input 0
  let cachedInputTokens := min (max cachedInput 0) inputTokens
  let outputTokens := max output 0
  let reasoningTokens := max reasoning 0
  { inputTokens, cachedInputTokens
    billableInputTokens := inputTokens.satSub cachedInputTokens
    outputTokens, reasoningTokens
    billableOutputTokens := max outputTokens reasoningTokens }

def BillableUsage.charged (usage : BillableUsage) (pricing : BillingPricingResolved) :
    I64 :=
  calculateChargedMicrocredits usage.inputTokens usage.cachedInputTokens
    usage.billableOutputTokens pricing

/-- The metadata fields that record the prices and the billed counts. -/
def usageFields (usage : BillableUsage) (pricing : BillingPricingResolved) :
    List (String × Json) :=
  [("pricing_source", .str pricing.source),
    ("input_price_microcredits", .int pricing.inputPriceMicrocredits.val),
    ("cached_input_price_microcredits", .int pricing.cachedInputPriceMicrocredits.val),
    ("output_price_microcredits", .int pricing.outputPriceMicrocredits.val),
    ("billable_input_tokens", .int usage.billableInputTokens.val),
    ("cached_input_tokens", .int usage.cachedInputTokens.val),
    ("reasoning_tokens", .int usage.reasoningTokens.val),
    ("billable_output_tokens", .int usage.billableOutputTokens.val)]

def BillingCaptureRequest.usage (req : BillingCaptureRequest) : BillableUsage :=
  BillableUsage.ofTokens req.inputTokens req.cachedInputTokens req.outputTokens
    req.reasoningTokens

/-- The session of a capture: the one of the request, else the one that the
authorization recorded. -/
def BillingCaptureRequest.effectiveSessionKey (req : BillingCaptureRequest)
    (authorization : BillingAuthorizationRecord) : Option String :=
  (Text.trimmed? req.sessionKey).or (authorizationSessionKey authorization.metaJson)

def BillingCaptureRequest.effectiveServiceTier (req : BillingCaptureRequest)
    (authorization : BillingAuthorizationRecord) : String :=
  normalizeBillingServiceTier
    (req.serviceTier.or (authorizationServiceTier authorization.metaJson))

def BillingCaptureRequest.effectiveRequestKind (req : BillingCaptureRequest)
    (authorization : BillingAuthorizationRecord) : BillingRequestKind :=
  match BillingRequestKind.fromOptional req.requestKind with
  | .unknown => (authorizationRequestKind authorization.metaJson).getD .unknown
  | value => value

/-- How a capture is priced, given the band of its session. -/
def BillingCaptureRequest.pricing (req : BillingCaptureRequest) (call : BillingCall)
    (model : String) (authorization : BillingAuthorizationRecord)
    (existingSession : Option String) : Result BillingPricingDecision :=
  call.tables.resolveModelPricingForRequest call.env model
    { serviceTier := some (req.effectiveServiceTier authorization)
      apiKeyId := req.apiKeyId
      requestKind := req.effectiveRequestKind authorization
      persistedBand :=
        (existingSession.map fun band => BillingPricingBand.fromOptional (some band)).or
          (authorizationPricingBand authorization.metaJson)
      actualInputTokens := some req.usage.inputTokens, phase := .capture }

/-- What a capture writes to its authorization. -/
def AuthorizationRow.capture (apiKeyId : Option Uuid) (model : String)
    (chargedMicrocredits : I64) (fields : Json) (now : DateTime)
    (row : AuthorizationRow) : AuthorizationRow :=
  { row with
    apiKeyId := row.apiKeyId.or apiKeyId
    model := row.model.or (some model)
    capturedMicrocredits := chargedMicrocredits
    status := .captured
    metaJson := row.metaJson.merge fields
    updatedAt := now }

def billingCaptureTx (call : BillingCall) (req : BillingCaptureRequest)
    (requestId model : String) : TxM BillingCaptureResponse := do
  let now := call.now
  let usage := req.usage
  let found ← fetchAuthorizationForUpdate req.tenantId requestId
  match found with
  | none => TxM.fail "authorization not found"
  | some authorization =>
    if authorizationCaptureIsIdempotent authorization.status then
      let balanceMicrocredits ← currentCreditBalanceForUpdate req.tenantId
      pure
        { authorizationId := authorization.id, tenantId := authorization.tenantId
          requestId := authorization.requestId, status := authorization.status
          reservedMicrocredits := authorization.reservedMicrocredits
          capturedMicrocredits := authorization.capturedMicrocredits
          chargedMicrocredits := authorization.capturedMicrocredits
          balanceMicrocredits }
    else if authorization.status ≠ .authorized then
      TxM.fail ("billing authorization is in invalid status: " ++
        authorization.status.asStr)
    else
      let sessionKey := req.effectiveSessionKey authorization
      let requestKind := req.effectiveRequestKind authorization
      let existingSession ← fetchSession call req.tenantId sessionKey
      let decision ← TxM.ofResult (req.pricing call model authorization existingSession)
      let pricing := decision.pricing
      let charged := usage.charged pricing
      let extraCharge := max (charged.satSub authorization.reservedMicrocredits) 0
      let priced := pricingFields sessionKey requestKind
        (req.effectiveServiceTier authorization) decision
      let balanceMicrocredits ← applyCreditDeltaInner
        { tenantId := req.tenantId
          apiKeyId := req.apiKeyId.or authorization.apiKeyId
          eventType := .capture, deltaMicrocredits := -extraCharge
          requestId := some requestId, model := some model
          inputTokens := some usage.inputTokens
          outputTokens := some usage.outputTokens
          metaJson := some (Json.ofFields
            ([("phase", .str "capture"),
              ("authorization_id", jsonUuid authorization.id)] ++ priced ++
            [("reserved_microcredits", .int authorization.reservedMicrocredits.val),
              ("charged_microcredits", .int charged.val),
              ("extra_charge_microcredits", .int extraCharge.val)] ++
            usageFields usage pricing ++ [("is_stream", .bool req.isStream)]))
          now }
      let fields := Json.ofFields
        ([("phase", .str "capture")] ++ priced ++
        [("pricing_source", .str pricing.source),
          ("charged_microcredits", .int charged.val),
          ("captured_at", .str (call.rfc3339 now)),
          ("is_stream", .bool req.isStream)])
      TxM.execute "failed to update billing authorization capture status" fun db =>
        some (db.updateAuthorization authorization.id
          (AuthorizationRow.capture (req.apiKeyId.or authorization.apiKeyId)
            (authorization.model.getD model) charged fields now))
      touchSession req.tenantId sessionKey model decision.band now
      pure
        { authorizationId := authorization.id, tenantId := authorization.tenantId
          requestId := authorization.requestId, status := .captured
          reservedMicrocredits := authorization.reservedMicrocredits
          capturedMicrocredits := charged, chargedMicrocredits := charged
          balanceMicrocredits }

def billingCapture (call : BillingCall) (req : BillingCaptureRequest) (db : Db) :
    Result BillingCaptureResponse × Db :=
  let requestId := Text.trim req.requestId
  let model := Text.trim req.model
  if requestId = "" then (.error "request_id must not be empty", db)
  else if model = "" then (.error "model must not be empty", db)
  else (billingCaptureTx call req requestId model).transaction db

/-! ## Release -/

/-- The part of the reservation that was not captured. -/
def BillingAuthorizationRecord.releaseMicrocredits
    (authorization : BillingAuthorizationRecord) : I64 :=
  max (authorization.reservedMicrocredits.satSub authorization.capturedMicrocredits) 0

def BillingReleaseRequest.releaseMeta (req : BillingReleaseRequest)
    (authorization : BillingAuthorizationRecord) : Json :=
  let optional {α : Type} (key : String) (f : α → Json) (value : Option α) :=
    (value.map fun v => (key, f v)).toList
  Json.ofFields
    ([("phase", .str "release"),
      ("authorization_id", jsonUuid authorization.id),
      ("request_id", .str authorization.requestId),
      ("release_microcredits", .int authorization.releaseMicrocredits.val),
      ("is_stream", .bool req.isStream)] ++
    optional "release_reason" .str req.releaseReason ++
    optional "upstream_status_code" (fun n : Nat => .int n) req.upstreamStatusCode ++
    optional "upstream_error_code" .str req.upstreamErrorCode ++
    optional "failover_action" .str req.failoverAction ++
    optional "failover_reason_class" .str req.failoverReasonClass ++
    optional "recovery_action" .str req.recoveryAction ++
    optional "recovery_outcome" .str req.recoveryOutcome ++
    optional "cross_account_failover_attempted" .bool req.crossAccountFailoverAttempted)

def BillingReleaseRequest.posting (req : BillingReleaseRequest) (now : DateTime)
    (authorization : BillingAuthorizationRecord) : CreditDeltaParams :=
  { tenantId := req.tenantId, apiKeyId := authorization.apiKeyId
    eventType := .release
    deltaMicrocredits := authorization.releaseMicrocredits
    requestId := none, model := authorization.model
    inputTokens := none, outputTokens := none
    metaJson := some (req.releaseMeta authorization), now }

/-- What a release writes to its authorization. -/
def AuthorizationRow.release (now : DateTime) (row : AuthorizationRow) :
    AuthorizationRow :=
  { row with status := .released, updatedAt := now }

def billingReleaseTx (call : BillingCall) (req : BillingReleaseRequest)
    (requestId : String) : TxM BillingReleaseResponse := do
  let now := call.now
  let found ← fetchAuthorizationForUpdate req.tenantId requestId
  match found with
  | none => TxM.fail "authorization not found"
  | some authorization =>
    let releaseMicrocredits := authorization.releaseMicrocredits
    if authorization.status = .released then
      let balanceMicrocredits ← currentCreditBalanceForUpdate req.tenantId
      pure
        { authorizationId := authorization.id, tenantId := authorization.tenantId
          requestId := authorization.requestId, status := authorization.status
          reservedMicrocredits := authorization.reservedMicrocredits
          capturedMicrocredits := authorization.capturedMicrocredits
          releasedMicrocredits := releaseMicrocredits, balanceMicrocredits }
    else
      let balanceMicrocredits ←
        if 0 < releaseMicrocredits then
          applyCreditDeltaInner (req.posting now authorization)
        else currentCreditBalanceForUpdate req.tenantId
      TxM.execute "failed to update billing authorization release status" fun db =>
        some (db.updateAuthorization authorization.id (AuthorizationRow.release now))
      pure
        { authorizationId := authorization.id, tenantId := authorization.tenantId
          requestId := authorization.requestId, status := .released
          reservedMicrocredits := authorization.reservedMicrocredits
          capturedMicrocredits := authorization.capturedMicrocredits
          releasedMicrocredits := releaseMicrocredits, balanceMicrocredits }

def billingRelease (call : BillingCall) (req : BillingReleaseRequest) (db : Db) :
    Result BillingReleaseResponse × Db :=
  let requestId := Text.trim req.requestId
  if requestId = "" then (.error "request_id must not be empty", db)
  else (billingReleaseTx call req requestId).transaction db

/-! ## Reconciliation -/

/-- An authorization that was not closed in time. -/
def AuthorizationRow.stale (now staleBefore : DateTime) (row : AuthorizationRow) : Bool :=
  row.status = .authorized ∧ row.expiresAt ≤ now ∨
    row.status = .captured ∧ row.updatedAt ≤ staleBefore

def staleAuthorizations (now staleBefore : DateTime) (batchSize : Nat) (db : Db) :
    List PgRow :=
  (((db.authorizations.filter (AuthorizationRow.stale now staleBefore)).insertionSort
    fun a b => a.updatedAt ≤ b.updatedAt).take batchSize).map
      fun row => ⟨authorizationColumns, row⟩

/-- What the sweep posts for an authorization that it closes. -/
def reconcilePosting (now : DateTime) (authorization : BillingAuthorizationRecord) :
    CreditDeltaParams :=
  { tenantId := authorization.tenantId, apiKeyId := authorization.apiKeyId
    eventType := .adjust
    deltaMicrocredits := authorization.releaseMicrocredits
    requestId := none, model := authorization.model
    inputTokens := none, outputTokens := none
    metaJson := some (Json.ofFields
      [("phase", .str "reconcile_adjust"),
        ("reason", .str "stale_authorization_release"),
        ("authorization_id", jsonUuid authorization.id),
        ("request_id", .str authorization.requestId),
        ("previous_status", .str authorization.status.asStr),
        ("release_microcredits", .int authorization.releaseMicrocredits.val)])
    now }

/-- What the sweep writes to an authorization that it closes. -/
def AuthorizationRow.reconcileRelease (fields : Json) (now : DateTime)
    (row : AuthorizationRow) : AuthorizationRow :=
  { row with
    status := .released
    metaJson := row.metaJson.merge fields
    updatedAt := now }

/-- What the sweep adds to the metadata of an authorization that it closes. -/
def reconcileMeta (call : BillingCall) (authorization : BillingAuthorizationRecord) :
    Json :=
  Json.ofFields
    [("phase", .str "reconcile_release"),
      ("reason", .str "stale_authorization_close"),
      ("reconciled_at", .str (call.rfc3339 call.now)),
      ("previous_status", .str authorization.status.asStr),
      ("release_microcredits", .int authorization.releaseMicrocredits.val)]

/-- Closes one authorization of the sweep. -/
def reconcileRow (call : BillingCall) (stats : BillingReconcileStats) (row : PgRow) :
    TxM BillingReconcileStats := do
  let authorization ← TxM.ofResult row.authorizationRecord
  let releaseMicrocredits := authorization.releaseMicrocredits
  if 0 < releaseMicrocredits then
    let _ ← applyCreditDeltaInner (reconcilePosting call.now authorization)
  TxM.execute "failed to update billing authorization status in reconcile" fun db =>
    some (db.updateAuthorization authorization.id
      (AuthorizationRow.reconcileRelease (reconcileMeta call authorization) call.now))
  pure
    { scanned := stats.scanned.satAdd 1
      adjusted := if 0 < releaseMicrocredits then stats.adjusted.satAdd 1
        else stats.adjusted
      releasedAuthorizations := stats.releasedAuthorizations.satAdd 1
      adjustedMicrocreditsTotal :=
        if 0 < releaseMicrocredits then
          stats.adjustedMicrocreditsTotal.satAdd releaseMicrocredits
        else stats.adjustedMicrocreditsTotal }

def reconcileRows (call : BillingCall) :
    BillingReconcileStats → List PgRow → TxM BillingReconcileStats
  | stats, [] => pure stats
  | stats, row :: rows => do
    let stats ← reconcileRow call stats row
    reconcileRows call stats rows

def billingReconcileOnce (call : BillingCall) (req : BillingReconcileRequest) (db : Db) :
    Result BillingReconcileStats × Db :=
  let staleSec := min (max req.staleSec 60) (30 * 24 * 60 * 60)
  let batchSize := min (max req.batchSize 1) 5000
  let staleBefore := call.now - seconds staleSec
  TxM.transaction (do
    let rows ← TxM.query "failed to query stale billing authorizations for reconcile"
      (staleAuthorizations call.now staleBefore batchSize)
    reconcileRows call {} rows) db

/-- What an adjustment writes to its authorization. -/
def AuthorizationRow.adjust (capturedMicrocredits : I64) (fields : Json)
    (now : DateTime) (row : AuthorizationRow) : AuthorizationRow :=
  { row with
    capturedMicrocredits
    metaJson := row.metaJson.merge fields
    updatedAt := now }

/-- How an adjustment is priced: from the metadata of the authorization alone,
without the session. -/
def adjustPricing (call : BillingCall) (model : String) (usage : BillableUsage)
    (serviceTier : Option String) (authorization : BillingAuthorizationRecord) :
    Result BillingPricingDecision :=
  call.tables.resolveModelPricingForRequest call.env model
    { serviceTier := some (normalizeBillingServiceTier
        (serviceTier.or (authorizationServiceTier authorization.metaJson)))
      apiKeyId := authorization.apiKeyId
      requestKind := (authorizationRequestKind authorization.metaJson).getD .unknown
      persistedBand := authorizationPricingBand authorization.metaJson
      actualInputTokens := some usage.inputTokens, phase := .capture }

def adjustFields (serviceTier : Option String) (authorization : BillingAuthorizationRecord)
    (decision : BillingPricingDecision) (expected : I64) : List (String × Json) :=
  let requestKind := (authorizationRequestKind authorization.metaJson).getD .unknown
  let effectiveServiceTier := normalizeBillingServiceTier
    (serviceTier.or (authorizationServiceTier authorization.metaJson))
  [("request_kind", .str requestKind.asStr),
    ("service_tier", .str effectiveServiceTier),
    ("pricing_band", .str decision.band.asStr),
    ("pricing_rule_id", Json.ofOption jsonUuid decision.matchedRuleId),
    ("previous_captured_microcredits", .int authorization.capturedMicrocredits.val),
    ("expected_captured_microcredits", .int expected.val)]

def adjustPosting (now : DateTime) (tenantId : Uuid) (requestId model : String)
    (usage : BillableUsage) (apiKeyId : Option Uuid) (serviceTier : Option String)
    (authorization : BillingAuthorizationRecord) (decision : BillingPricingDecision) :
    CreditDeltaParams :=
  let expected := usage.charged decision.pricing
  let delta := authorization.capturedMicrocredits.satSub expected
  { tenantId, apiKeyId := apiKeyId.or authorization.apiKeyId
    eventType := .adjust, deltaMicrocredits := delta, requestId := none
    model := authorization.model.or (some model)
    inputTokens := some usage.inputTokens
    outputTokens := some usage.outputTokens
    metaJson := some (Json.ofFields
      ([("phase", .str "reconcile_adjust"),
        ("reason", .str "request_log_capture_mismatch"),
        ("request_id", .str requestId),
        ("authorization_id", jsonUuid authorization.id)] ++
      adjustFields serviceTier authorization decision expected ++
      [("delta_microcredits", .int delta.val)] ++ usageFields usage decision.pricing))
    now }

def adjustMeta (call : BillingCall) (requestId : String) (usage : BillableUsage)
    (serviceTier : Option String) (authorization : BillingAuthorizationRecord)
    (decision : BillingPricingDecision) : Json :=
  Json.ofFields
    ([("phase", .str "reconcile_adjust"),
      ("reason", .str "request_log_capture_mismatch"),
      ("request_id", .str requestId)] ++
    adjustFields serviceTier authorization decision (usage.charged decision.pricing) ++
    [("pricing_source", .str decision.pricing.source),
      ("reconciled_at", .str (call.rfc3339 call.now))])

def reconcileAdjustTx (call : BillingCall) (tenantId : Uuid) (requestId model : String)
    (usage : BillableUsage) (apiKeyId : Option Uuid) (serviceTier : Option String) :
    TxM Bool := do
  let now := call.now
  let found ← fetchAuthorizationForUpdate tenantId requestId
  match found with
  | none => pure false
  | some authorization =>
    let decision ←
      TxM.ofResult (adjustPricing call model usage serviceTier authorization)
    let expected := usage.charged decision.pricing
    if authorization.capturedMicrocredits = expected then pure false
    else
      let delta := authorization.capturedMicrocredits.satSub expected
      if delta ≠ 0 then
        let _ ← applyCreditDeltaInner (adjustPosting now tenantId requestId model usage
          apiKeyId serviceTier authorization decision)
      TxM.execute
        "failed to update authorization captured_microcredits in reconcile adjust"
        fun db => some (db.updateAuthorization authorization.id
          (AuthorizationRow.adjust expected
            (adjustMeta call requestId usage serviceTier authorization decision) now))
      pure true

def reconcileAdjustCapturedAmount (call : BillingCall) (tenantId : Uuid)
    (requestId model : String)
    (inputTokens cachedInputTokens outputTokens reasoningTokens : I64)
    (apiKeyId : Option Uuid) (serviceTier : Option String) (db : Db) :
    Result Bool × Db :=
  let usage := BillableUsage.ofTokens inputTokens cachedInputTokens outputTokens
    reasoningTokens
  (reconcileAdjustTx call tenantId requestId model usage apiKeyId serviceTier).transaction
    db

/-- The release that the request log asks for. -/
def BillingReconcileFactRequest.releaseRequest (req : BillingReconcileFactRequest)
    (requestId : String) : BillingReleaseRequest :=
  { tenantId := req.tenantId, requestId, isStream := false, releaseReason := none
    upstreamStatusCode := none, upstreamErrorCode := none, failoverAction := none
    failoverReasonClass := none, recoveryAction := none, recoveryOutcome := none
    crossAccountFailoverAttempted := none }

section Reader

variable (fetch : Uuid → String → Db → Result (Option BillingAuthorizationRecord))

/-- The last part of the reconciliation from the request log: the hold is read
again and released if it is still open. -/
def reconcileFactCloseWith (call : BillingCall) (req : BillingReconcileFactRequest)
    (requestId : String) (stats : BillingReconcileStats) (db : Db) :
    Result BillingReconcileStats × Db :=
  match fetch req.tenantId requestId db with
  | .error e => (.error e, db)
  | .ok none => (.ok stats, db)
  | .ok (some latest) =>
    if latest.status ≠ .released then
      match billingRelease call (req.releaseRequest requestId) db with
      | (.error e, db) => (.error e, db)
      | (.ok _, db) =>
        (.ok { stats with
          releasedAuthorizations := stats.releasedAuthorizations.satAdd 1 }, db)
    else (.ok stats, db)

/-- The reconciliation from the request log, with the reader of the holds as a
parameter. -/
def reconcileFactWith (call : BillingCall) (req : BillingReconcileFactRequest)
    (db : Db) : Result BillingReconcileStats × Db :=
  let requestId := Text.trim req.requestId
  if requestId = "" then (.ok {}, db)
  else
    match fetch req.tenantId requestId db with
    | .error e => (.error e, db)
    | .ok none => (.ok {}, db)
    | .ok (some authorization) =>
      let stats : BillingReconcileStats := { scanned := 1 }
      let model := (Text.trimmed? req.model).or (Text.trimmed? authorization.model)
      let inputTokens := req.inputTokens.map (max · 0)
      let cachedInputTokens := req.cachedInputTokens.map (max · 0)
      let outputTokens := req.outputTokens.map (max · 0)
      let reasoningTokens := req.reasoningTokens.map (max · 0)
      let serviceTier :=
        req.serviceTier.or (authorizationServiceTier authorization.metaJson)
      match model, inputTokens, outputTokens with
      | some model, some inputTokens, some outputTokens =>
        if authorization.status = .authorized then
          let capture : BillingCaptureRequest :=
            { tenantId := req.tenantId
              apiKeyId := req.apiKeyId.or authorization.apiKeyId, requestId, model
              serviceTier, sessionKey := authorizationSessionKey authorization.metaJson
              requestKind := (authorizationRequestKind authorization.metaJson).map
                BillingRequestKind.asStr
              inputTokens, cachedInputTokens := cachedInputTokens.getD 0, outputTokens
              reasoningTokens := reasoningTokens.getD 0, isStream := false }
          match billingCapture call capture db with
          | (.error e, db) => (.error e, db)
          | (.ok _, db) => reconcileFactCloseWith fetch call req requestId stats db
        else
          match reconcileAdjustCapturedAmount call req.tenantId requestId model
              inputTokens (cachedInputTokens.getD 0) outputTokens
              (reasoningTokens.getD 0) req.apiKeyId serviceTier db with
          | (.error e, db) => (.error e, db)
          | (.ok adjusted, db) =>
            reconcileFactCloseWith fetch call req requestId
              { stats with
                adjusted := if adjusted then stats.adjusted.satAdd 1
                  else stats.adjusted } db
      | _, _, _ => reconcileFactCloseWith fetch call req requestId stats db

end Reader

def billingReconcileRequestFact (call : BillingCall) (req : BillingReconcileFactRequest)
    (db : Db) : Result BillingReconcileStats × Db :=
  reconcileFactWith fetchAuthorization call req db

end CodexPool
