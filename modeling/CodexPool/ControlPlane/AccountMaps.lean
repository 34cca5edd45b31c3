import CodexPool.ControlPlane.OAuthVault
import CodexPool.ControlPlane.Operation
import CodexPool.ImportJobs.Job

/-!
# The maps of accounts in the in-memory store

What the in-memory store keeps of an account is spread over maps with the id of the account as
their key. Reports of the data plane, probes and refreshes of rate limits write to some of these
maps, and an account is deleted in three ways.
-/

namespace CodexPool

inductive OAuthLiveResultStatus where
  | ok
  | failed
deriving DecidableEq

inductive OAuthLiveResultSource where
  | active
  | passive
deriving DecidableEq

/-- The columns of a health state that reports of the data plane write. -/
structure AccountLiveSignals where
  seenOkAt : Option DateTime
  lastLiveResultAt : Option DateTime
  lastLiveResultStatus : Option OAuthLiveResultStatus
  lastLiveResultSource : Option OAuthLiveResultSource
  lastLiveResultStatusCode : Option Nat
  lastLiveErrorCode : Option String
  lastLiveErrorMessagePreview : Option String
  tokenInvalidatedStrikeCount : Nat
  tokenInvalidatedFirstAt : Option DateTime
deriving DecidableEq

def AccountLiveSignals.default : AccountLiveSignals :=
  ⟨none, none, none, none, none, none, none, 0, none⟩

structure OAuthRateLimitCacheRecord where
  rateLimits : List OAuthRateLimitSnapshot
  fetchedAt : Option DateTime
  expiresAt : Option DateTime
  lastErrorCode : Option String
  lastError : Option String
deriving DecidableEq

def OAuthRateLimitCacheRecord.default : OAuthRateLimitCacheRecord := ⟨[], none, none, none, none⟩

structure OAuthUsageSnapshot where
  rateLimits : List OAuthRateLimitSnapshot
  chatgptPlanType : Option String

structure AccountMapsConfig where
  oauth : OAuthConfig
  tokenInvalidatedPurgeWindow : Int
  tokenInvalidatedPurgeThreshold : UpstreamAuthProvider → Nat

/-! ## Errors of accounts -/

def normalizedAuthFailureReasonCode (authProvider : UpstreamAuthProvider)
    (errorCode errorMessage : String) : String :=
  let normalized := normalizeErrorCodeForHealth errorCode
  if normalized = "token_invalidated" then normalized
  else if authProvider = .legacyBearer && isAuthErrorSignal errorCode errorMessage then
    "token_invalidated"
  else if normalized = "" then "invalid_refresh_token"
  else normalized

def normalizedLiveErrorCode (errorCode : Option String) : Option String :=
  (errorCode.map fun value => String.ofList ((Text.toAsciiLowercase (Text.trim value)).toList.map
    fun c => if c = ' ' ∨ c = '-' then '_' else c)).filter (· ≠ "")

def classifyRuntimeProbeFailure (cfg : OAuthConfig) (authProvider : UpstreamAuthProvider)
    (checkedAt : DateTime) (errorCode errorMessage : String) :
    AccountProbeOutcome × String × Option DateTime :=
  let normalizedCode := normalizeErrorCodeForHealth errorCode
  let mentions := Text.contains (Text.toAsciiLowercase errorMessage)
  let orElse (code : String) := if normalizedCode = "" then code else normalizedCode
  let retryAfter (reason : String) :=
    some (checkedAt + rateLimitFailureBackoff cfg reason errorMessage)
  if normalizedCode = "account_deactivated" || mentions "account_deactivated" then
    (.fatal, "account_deactivated", none)
  else if normalizedCode = "token_invalidated" || mentions "token_invalidated" then
    (.fatal, "token_invalidated", none)
  else if isQuotaErrorSignal errorCode errorMessage then
    (.quota, orElse "quota_exhausted", retryAfter (orElse "quota_exhausted"))
  else if isRateLimitedSignal errorCode errorMessage then
    (.quota, orElse "rate_limited", retryAfter (orElse "rate_limited"))
  else if isFatalRefreshErrorCode (some errorCode) || isAuthErrorSignal errorCode errorMessage then
    (.fatal, normalizedAuthFailureReasonCode authProvider errorCode errorMessage, none)
  else (.transient, orElse "upstream_unavailable", some (checkedAt + seconds (5 * 60)))

def SessionProfileRecord.oneTimeAccessToken (tokenExpiresAt : Option DateTime)
    (chatgptPlanType sourceType : Option String) : SessionProfileRecord where
  credentialKind := .oneTimeAccessToken
  tokenExpiresAt := tokenExpiresAt
  profile := { OAuthProfile.empty with chatgptPlanType := chatgptPlanType }
  sourceType := sourceType

/-! ## The maps -/

/-- The health state of an account has its columns in `oauth.healthStates` and `liveSignals`; it
is in the map when `oauth.healthStates` has it. -/
structure AccountMaps where
  oauth : OAuthStore
  liveSignals : Uuid → AccountLiveSignals
  modelSupport : Uuid → Option (List String)
  rateLimitCaches : Uuid → Option OAuthRateLimitCacheRecord

/-- `POST .../health/live-result` -/
structure LiveResultReport where
  accountId : Uuid
  reportedAt : DateTime
  status : OAuthLiveResultStatus
  source : OAuthLiveResultSource
  statusCode : Option Nat
  errorCode : Option String
  errorMessagePreview : Option String

/-- A probe that waits for the upstream, with what it has read. -/
structure RuntimeProbeCall where
  accountId : Uuid
  provider : UpstreamAuthProvider
  accessToken : String
  baseUrl : String
  chatgptAccountId : Option String
  checkedAt : DateTime

namespace AccountMaps

variable (cfg : AccountMapsConfig) (w : AccountMaps)

/-- The maps of a new store. -/
def new : AccountMaps where
  oauth := ⟨[], fun _ => none, fun _ => none, fun _ => none, fun _ => none, []⟩
  liveSignals := fun _ => .default
  modelSupport := fun _ => none
  rateLimitCaches := fun _ => none

def withOauth (oauth : OAuthStore) : AccountMaps := { w with oauth }

def accountAuthProvider (accountId : Uuid) : UpstreamAuthProvider :=
  (w.oauth.providers accountId).getD .legacyBearer

/-- `states.entry(account_id).or_default()`, and then its columns. -/
def setLiveSignals (accountId : Uuid) (signals : AccountLiveSignals) : AccountMaps :=
  { w with
    oauth := w.oauth.setHealthState accountId (w.oauth.healthState accountId)
    liveSignals := Function.update w.liveSignals accountId signals }

def setRateLimitCache (accountId : Uuid) (cache : OAuthRateLimitCacheRecord) : AccountMaps :=
  { w with rateLimitCaches := Function.update w.rateLimitCaches accountId (some cache) }

/-! ## New accounts -/

def createdAccount (req : CreateUpstreamAccountRequest) (newId : Uuid) (now : DateTime) :
    UpstreamAccount where
  id := newId
  label := req.label
  mode := req.mode
  baseUrl := cfg.oauth.normalizeUpstreamAccountBaseUrl req.mode req.baseUrl
  bearerToken := req.bearerToken
  chatgptAccountId := req.chatgptAccountId
  enabled := req.enabled.getD true
  priority := req.priority.getD 100
  createdAt := now

def createUpstreamAccountInner (req : CreateUpstreamAccountRequest) (newId : Uuid)
    (now : DateTime) : AccountMaps :=
  w.withOauth ((w.oauth.insertAccount (createdAccount cfg req newId now)).setProvider newId
    .legacyBearer)

/-- An account with a token of its own: one of the workspace, or with the label where the request
names no workspace. -/
def matchesOneTime (req : UpsertOneTimeSessionAccountRequest) (label : String)
    (account : UpstreamAccount) : Bool :=
  let workspace := Text.trimmed? req.chatgptAccountId
  w.accountAuthProvider account.id = .legacyBearer &&
    ((workspace.isSome && account.chatgptAccountId = workspace) ||
      (account.mode = req.mode && workspace.isNone && account.label = label))

def oneTimeAccount (req : UpsertOneTimeSessionAccountRequest) (newId : Uuid)
    (createdAt : DateTime) : UpstreamAccount where
  id := newId
  label := Text.trim req.label
  mode := req.mode
  baseUrl := cfg.oauth.normalizeUpstreamAccountBaseUrl req.mode req.baseUrl
  bearerToken := req.accessToken
  chatgptAccountId := Text.trimmed? req.chatgptAccountId
  enabled := req.enabled.getD true
  priority := req.priority.getD 100
  createdAt := createdAt

def upsertOneTimeSessionAccountInner (req : UpsertOneTimeSessionAccountRequest) (newId : Uuid)
    (now : DateTime) : Result AccountMaps :=
  if Text.trim req.label = "" then .error "label is required"
  else
    let profile := SessionProfileRecord.oneTimeAccessToken req.tokenExpiresAt req.chatgptPlanType
      req.sourceType
    match w.oauth.accounts.find? (w.matchesOneTime req (Text.trim req.label)) with
    | some matched =>
      .ok (w.withOauth (((w.oauth.updateAccount matched.id fun old =>
        oneTimeAccount cfg req old.id old.createdAt).setProvider matched.id
          .legacyBearer).upsertSessionProfile matched.id profile))
    | none =>
      .ok (w.withOauth (((w.oauth.insertAccount (oneTimeAccount cfg req newId now)).setProvider
        newId .legacyBearer).upsertSessionProfile newId profile))

/-- The tokens of a refresh token that was imported are stored. -/
def storeTokens (call : OAuthStore.UpsertCall) (info : OAuthTokenInfo)
    (draw : OAuthStore.UpsertDraw) : AccountMaps :=
  w.withOauth (w.oauth.storeTokens cfg.oauth call info draw).2

/-! ## Deleted accounts -/

/-- What all three ways of deleting accounts have in common. -/
def removeAccounts (doomed : Uuid → Bool) : AccountMaps :=
  { w with
    oauth := { w.oauth with
      accounts := w.oauth.accounts.filter fun a => !doomed a.id
      providers := fun id => if doomed id then none else w.oauth.providers id
      credentials := fun id => if doomed id then none else w.oauth.credentials id
      sessionProfiles := fun id => if doomed id then none else w.oauth.sessionProfiles id }
    rateLimitCaches := fun id => if doomed id then none else w.rateLimitCaches id }

def removeHealthStates (doomed : Uuid → Bool) : AccountMaps :=
  { w with
    oauth := { w.oauth with
      healthStates := fun id => if doomed id then none else w.oauth.healthStates id }
    liveSignals := fun id => if doomed id then .default else w.liveSignals id }

def deleteUpstreamAccountInner (accountId : Uuid) : Result AccountMaps :=
  match w.oauth.account? accountId with
  | none => .error "upstream account not found"
  | some _ =>
    .ok ((w.removeAccounts (decide <| · = accountId)).removeHealthStates (decide <| · = accountId))

def isDuplicate (accountUserId userId accountId : Option String) (id : Uuid) : Bool :=
  decide (id ∈ (w.oauth.accounts.filter
    (w.oauth.duplicate (identityKeyOf accountUserId userId accountId))).map (·.id))

def dedupeOauthAccountsByIdentityInner (accountUserId userId accountId : Option String) :
    AccountMaps :=
  let doomed := w.isDuplicate accountUserId userId accountId
  (w.removeAccounts doomed).removeHealthStates doomed

/-- Its session profile says that the token of the account was one of its own and is used up. -/
def isExpiredOneTime (now : DateTime) (accountId : Uuid) : Bool :=
  (w.oauth.sessionProfiles accountId).any fun profile =>
    profile.credentialKind = .oneTimeAccessToken &&
      profile.tokenExpiresAt.any (· ≤ now + oauthMinValid)

def purgeExpiredOneTimeAccountsInner (now : DateTime) : AccountMaps :=
  w.removeAccounts (w.isExpiredOneTime now)

/-! ## Health states -/

def setAccountPoolStateQuarantineInner (accountId : Uuid) (at' : DateTime)
    (until' : Option DateTime) (reason : Option String) : Result AccountMaps :=
  match w.oauth.account? accountId with
  | none => .error "upstream account not found"
  | some _ =>
    .ok (w.withOauth (w.oauth.setHealthState accountId { w.oauth.healthState accountId with
      poolState := .quarantine
      quarantineUntil := until'
      quarantineReason := Text.trimmed? reason
      pendingPurgeAt := none
      pendingPurgeReason := none
      lastPoolTransitionAt := some at' }))

def markUpstreamAccountPendingPurgeInner (accountId : Uuid) (reason : Option String)
    (now : DateTime) : Result AccountMaps :=
  match w.oauth.account? accountId with
  | none => .error "upstream account not found"
  | some _ =>
    .ok (w.withOauth (w.oauth.markUpstreamAccountPendingPurgeInner cfg.oauth accountId reason now))

def markAccountSeenOkInner (accountId : Uuid) (seenOkAt : DateTime) (minWriteInterval : Int) :
    Bool × AccountMaps :=
  let signals := w.liveSignals accountId
  if signals.seenOkAt.any fun previous => seenOkAt - max minWriteInterval 0 ≤ previous then
    (false, w.setLiveSignals accountId signals)
  else
    (true, w.setLiveSignals accountId { signals with
      seenOkAt := some (signals.seenOkAt.elim seenOkAt fun previous => max previous seenOkAt)
      tokenInvalidatedStrikeCount := 0
      tokenInvalidatedFirstAt := none })

def resetTokenInvalidatedStrikesInner (accountId : Uuid) : AccountMaps :=
  w.setLiveSignals accountId { w.liveSignals accountId with
    tokenInvalidatedStrikeCount := 0
    tokenInvalidatedFirstAt := none }

/-- Strikes are counted in 32 bits. -/
def recordTokenInvalidatedStrikeInner (accountId : Uuid) (reportedAt : DateTime) :
    Result (Bool × AccountMaps) :=
  match w.oauth.account? accountId with
  | none => .error "upstream account not found"
  | some _ =>
    let signals := w.liveSignals accountId
    let withinWindow := signals.tokenInvalidatedFirstAt.any fun firstAt =>
      reportedAt ≤ firstAt + cfg.tokenInvalidatedPurgeWindow
    let struck := if withinWindow then
        { signals with
          tokenInvalidatedStrikeCount := nextCount signals.tokenInvalidatedStrikeCount }
      else
        { signals with
          tokenInvalidatedFirstAt := some reportedAt
          tokenInvalidatedStrikeCount := 1 }
    .ok (decide (cfg.tokenInvalidatedPurgeThreshold (w.accountAuthProvider accountId) ≤
      struck.tokenInvalidatedStrikeCount), w.setLiveSignals accountId struck)

/-- What the report itself is written as. -/
def noteLiveResult (report : LiveResultReport) : AccountMaps :=
  w.setLiveSignals report.accountId { w.liveSignals report.accountId with
    lastLiveResultAt := some report.reportedAt
    lastLiveResultStatus := some report.status
    lastLiveResultSource := some report.source
    lastLiveResultStatusCode := report.statusCode.filter fun code => 200 ≤ code ∧ code < 600
    lastLiveErrorCode :=
      if report.status = .failed then normalizedLiveErrorCode report.errorCode else none
    lastLiveErrorMessagePreview :=
      if report.status = .failed then
        (Text.trimmed? report.errorMessagePreview).map truncateErrorMessage
      else none }

/-- An account is given up once its token has been invalidated often enough. -/
def applyTokenInvalidated (accountId : Uuid) (reportedAt now : DateTime) : Result AccountMaps := do
  let (purge, w) ← w.recordTokenInvalidatedStrikeInner cfg accountId reportedAt
  if purge then
    w.markUpstreamAccountPendingPurgeInner cfg accountId (some "token_invalidated") now
  else
    w.setAccountPoolStateQuarantineInner accountId reportedAt
      (some (reportedAt + seconds (30 * 60))) (some "token_invalidated")

def applyFailedLiveResult (report : LiveResultReport) (now : DateTime) :
    Result (Bool × AccountMaps) :=
  let accountId := report.accountId
  let errorCode := normalizedLiveErrorCode report.errorCode
  if errorCode = some "account_deactivated" then do
    let w ← (w.resetTokenInvalidatedStrikesInner accountId).markUpstreamAccountPendingPurgeInner cfg
      accountId (some "account_deactivated") now
    pure (true, w)
  else if errorCode = some "rate_limited" ∨ errorCode = some "quota_exhausted" then do
    let reason := errorCode.getD "rate_limited"
    let w ← (w.resetTokenInvalidatedStrikesInner accountId).setAccountPoolStateQuarantineInner
      accountId report.reportedAt
        (some (report.reportedAt + rateLimitFailureBackoff cfg.oauth reason "")) (some reason)
    pure (true, w)
  else if errorCode = some "auth_expired" then do
    let w ← (w.resetTokenInvalidatedStrikesInner accountId).setAccountPoolStateQuarantineInner
      accountId report.reportedAt (some (report.reportedAt + seconds (30 * 60))) errorCode
    pure (true, w)
  else if errorCode = some "token_invalidated" then do
    let w ← w.applyTokenInvalidated cfg accountId report.reportedAt now
    pure (true, w)
  else .ok (false, w.resetTokenInvalidatedStrikesInner accountId)

def recordUpstreamAccountLiveResultInner (report : LiveResultReport) (now : DateTime) :
    Result (Bool × AccountMaps) :=
  match w.oauth.account? report.accountId with
  | none => .error "upstream account not found"
  | some _ =>
    let w := w.noteLiveResult report
    match report.status with
    | .ok =>
      let w := (w.markAccountSeenOkInner report.accountId report.reportedAt 0).2
      .ok (true, w.withOauth
        (w.oauth.setAccountPoolStateActiveInner report.accountId report.reportedAt))
    | .failed => w.applyFailedLiveResult cfg report now

def accountPoolStateRecordInner (accountId : Uuid) (now : DateTime) : AccountMaps :=
  w.withOauth (w.oauth.accountPoolStateRecordInner accountId now)

/-! ## Models and rate limits -/

def recordAccountModelSupport (accountId : Uuid) (supportedModels : List String) : AccountMaps :=
  { w with
    modelSupport := Function.update w.modelSupport accountId
      (some (normalizeStringList supportedModels)) }

def setPlanType (accountId : Uuid) (chatgptPlanType : Option String) : AccountMaps :=
  match Text.trimmed? chatgptPlanType, w.oauth.sessionProfiles accountId with
  | some planType, some record =>
    w.withOauth (w.oauth.upsertSessionProfile accountId { record with
      profile := { record.profile with chatgptPlanType := some planType } })
  | _, _ => w

def persistRateLimitCacheSuccessInner (accountId : Uuid) (rateLimits : List OAuthRateLimitSnapshot)
    (fetchedAt : DateTime) (chatgptPlanType : Option String) : AccountMaps :=
  let block := deriveRateLimitBlock fetchedAt rateLimits
  (w.setRateLimitCache accountId {
    rateLimits := rateLimits
    fetchedAt := some fetchedAt
    expiresAt := some (block.1.getD (fetchedAt + cfg.oauth.rateLimitCacheTtl))
    lastErrorCode := block.2
    lastError := block.2.map rateLimitBlockMessage }).setPlanType accountId chatgptPlanType

def persistRateLimitCacheFailureInner (accountId : Uuid) (errorCode errorMessage : String)
    (now : DateTime) : AccountMaps :=
  let cache := (w.rateLimitCaches accountId).getD .default
  w.setRateLimitCache accountId { cache with
    fetchedAt := if cache.rateLimits.isEmpty then none else cache.fetchedAt
    expiresAt := some (now + rateLimitFailureBackoff cfg.oauth errorCode errorMessage)
    lastErrorCode := some (if isAuthErrorSignal errorCode errorMessage then
        normalizedAuthFailureReasonCode (w.accountAuthProvider accountId) errorCode errorMessage
      else errorCode)
    lastError := some (truncateErrorMessage errorMessage) }

def refreshRateLimitTarget (accountId : Uuid)
    (answer : Except (String × String) OAuthUsageSnapshot) (fetchedAt now : DateTime) :
    AccountMaps :=
  match answer with
  | .ok usage =>
    w.persistRateLimitCacheSuccessInner cfg accountId usage.rateLimits fetchedAt
      usage.chatgptPlanType
  | .error (errorCode, errorMessage) =>
    w.persistRateLimitCacheFailureInner cfg accountId errorCode errorMessage now

/-! ## Probes -/

inductive RateLimitRefreshTokenSource where
  | encryptedAccessToken (accessTokenEnc : String)
  | bearerToken (accessToken : String)

def buildLiveRateLimitTokenSourceInner (account : UpstreamAccount) (now : DateTime) :
    Option RateLimitRefreshTokenSource :=
  if !account.enabled then none
  else
    match w.accountAuthProvider account.id with
    | .oauthRefreshToken =>
      (w.oauth.credentials account.id).bind fun credential =>
        if credential.tokenExpiresAt ≤ now + oauthMinValid then none
        else if credential.refreshReusedDetected then none
        else if credential.lastRefreshStatus = .failed ∧
            isFatalRefreshErrorCode credential.lastRefreshErrorCode then none
        else some (.encryptedAccessToken credential.accessTokenEnc)
    | .legacyBearer =>
      (w.oauth.sessionProfiles account.id).bind fun profile =>
        if account.mode ≠ .codexOauth then none
        else if profile.credentialKind ≠ .oneTimeAccessToken then none
        else if !profile.tokenExpiresAt.any (now + oauthMinValid < ·) then none
        else (Text.trimmed? (some account.bearerToken)).map .bearerToken

def recordAccountProbeResultInner (accountId : Uuid) (checkedAt : DateTime)
    (outcome : AccountProbeOutcome) : AccountMaps :=
  w.withOauth (w.oauth.recordAccountProbeResultInner accountId checkedAt outcome)

/-- A token that cannot be decrypted. -/
def failDecryption (accountId : Uuid) (checkedAt : DateTime) (e : String) (now : DateTime) :
    AccountMaps :=
  let w := w.recordAccountProbeResultInner accountId checkedAt .fatal
  match w.markUpstreamAccountPendingPurgeInner cfg accountId (some "credential_decrypt_failed")
      now with
  | .error _ => w
  | .ok w =>
    w.persistRateLimitCacheFailureInner cfg accountId "credential_decrypt_failed"
      (truncateErrorMessage e) now

/-- The probe up to the request to the upstream: the maps, and the request if one is sent. -/
def startRuntimeProbe (accountId : Uuid) (now : DateTime) :
    Result (Option RuntimeProbeCall) × AccountMaps :=
  match w.oauth.account? accountId with
  | none => (.error "account not found", w)
  | some account =>
    let call (accessToken : String) : RuntimeProbeCall :=
      { accountId
        provider := w.accountAuthProvider accountId
        accessToken
        baseUrl := account.baseUrl
        chatgptAccountId := account.chatgptAccountId
        checkedAt := now }
    match w.buildLiveRateLimitTokenSourceInner account now with
    | none => (.error "unsupported account pool action", w)
    | some (.bearerToken accessToken) => (.ok (some (call accessToken)), w)
    | some (.encryptedAccessToken accessTokenEnc) =>
      match cfg.oauth.requireCredentialCipher with
      | .error e => (.error e, w)
      | .ok cipher =>
        match cipher.decrypt accessTokenEnc with
        | .error e => (.ok none, w.failDecryption cfg accountId now e now)
        | .ok accessToken => (.ok (some (call accessToken)), w)

def applyProbeOutcome (accountId : Uuid) (checkedAt : DateTime) (outcome : AccountProbeOutcome)
    (reasonCode : String) (retryAfter : Option DateTime) (now : DateTime) : Result AccountMaps :=
  match outcome with
  | .ok => .ok (w.withOauth (w.oauth.setAccountPoolStateActiveInner accountId checkedAt))
  | .fatal => w.markUpstreamAccountPendingPurgeInner cfg accountId (some reasonCode) now
  | .quota | .transient =>
    w.setAccountPoolStateQuarantineInner accountId checkedAt retryAfter (some reasonCode)

/-- The outcome is recorded also where the account exists no more. -/
def concludeProbe (accountId : Uuid) (checkedAt : DateTime) (outcome : AccountProbeOutcome)
    (reasonCode : String) (retryAfter : Option DateTime) (now : DateTime) : AccountMaps :=
  let w := w.recordAccountProbeResultInner accountId checkedAt outcome
  match w.applyProbeOutcome cfg accountId checkedAt outcome reasonCode retryAfter now with
  | .ok w => w
  | .error _ => w

/-- The probe from the answer of the upstream on. -/
def finishRuntimeProbe (call : RuntimeProbeCall)
    (answer : Except OAuthTokenClientError OAuthUsageSnapshot) (now : DateTime) : AccountMaps :=
  match answer with
  | .ok usage =>
    let w := w.persistRateLimitCacheSuccessInner cfg call.accountId usage.rateLimits call.checkedAt
      usage.chatgptPlanType
    match deriveRateLimitBlock call.checkedAt usage.rateLimits with
    | (blockedUntil, some reasonCode) =>
      w.concludeProbe cfg call.accountId call.checkedAt .quota reasonCode blockedUntil now
    | (_, none) => w.concludeProbe cfg call.accountId call.checkedAt .ok "" none now
  | .error err =>
    let errorCode := err.code.asStr
    let errorMessage := truncateErrorMessage err.display
    let w := w.persistRateLimitCacheFailureInner cfg call.accountId errorCode errorMessage now
    let failure := classifyRuntimeProbeFailure cfg.oauth call.provider call.checkedAt errorCode
      errorMessage
    w.concludeProbe cfg call.accountId call.checkedAt failure.1 failure.2.1 failure.2.2 now

/-! ## Records of the vault -/

def materializeReadyOauthVaultRecordInner (record : OAuthRefreshTokenVaultRecord) (newId : Uuid)
    (now : DateTime) : Result (UpstreamAccount × AccountMaps) := do
  let (account, oauth) ← w.oauth.materializeReadyOauthVaultRecordInner cfg.oauth record newId now
  let w := w.withOauth oauth
  pure (account,
    if record.admissionRateLimits.isEmpty then w
    else w.persistRateLimitCacheSuccessInner cfg account.id record.admissionRateLimits
      (record.admissionCheckedAt.getD now) none)

def sampleMapsConfig : AccountMapsConfig where
  oauth := plainConfig
  tokenInvalidatedPurgeWindow := seconds 3600
  tokenInvalidatedPurgeThreshold := fun _ => 3

end AccountMaps

end CodexPool
