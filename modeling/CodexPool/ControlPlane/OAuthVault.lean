import CodexPool.ControlPlane.OAuthImport

/-!
# The vault of refresh tokens

Refresh tokens are queued in the vault before they become accounts. A record of the vault is
probed with its access token, activated once accounts are needed, and deleted some time after it
has failed. The errors that a probe or an activation meets are classified by their codes and by
words in their messages.
-/

namespace CodexPool

/-! ## Signals of an error -/

def isRateLimitedSignal (errorCode errorMessage : String) : Bool :=
  normalizeErrorCodeForHealth errorCode = "rate_limited" ||
    ["rate limit", "too many requests"].any (Text.contains (Text.toAsciiLowercase errorMessage))

def isTransientUpstreamErrorSignal (errorCode errorMessage : String) : Bool :=
  ["upstream_unavailable", "overloaded", "timeout"].contains
      (normalizeErrorCodeForHealth errorCode) ||
    ["service unavailable", "temporarily unavailable", "upstream unavailable", "timed out",
      "timeout", "connection reset"].any (Text.contains (Text.toAsciiLowercase errorMessage))

def rateLimitFailureBackoff (cfg : OAuthConfig) (errorCode errorMessage : String) : Int :=
  if isQuotaErrorSignal errorCode errorMessage then seconds (6 * 60 * 60)
  else if isAuthErrorSignal errorCode errorMessage then seconds (30 * 60)
  else if isRateLimitedSignal errorCode errorMessage then seconds 120
  else cfg.rateLimitRefreshErrorBackoff

def admissionProbeRetryAfter (cfg : OAuthConfig) (checkedAt : DateTime)
    (errorCode errorMessage : String) : Option DateTime :=
  if isQuotaErrorSignal errorCode errorMessage || isRateLimitedSignal errorCode errorMessage then
    some (checkedAt + rateLimitFailureBackoff cfg errorCode errorMessage)
  else if isTransientUpstreamErrorSignal errorCode errorMessage then
    some (checkedAt + seconds (5 * 60))
  else none

def admissionProbeRetryAfterWithBudget (cfg : OAuthConfig) (checkedAt : DateTime)
    (errorCode errorMessage : String) (transientRetryCount : Nat) : Option DateTime :=
  if isQuotaErrorSignal errorCode errorMessage || isRateLimitedSignal errorCode errorMessage then
    admissionProbeRetryAfter cfg checkedAt errorCode errorMessage
  else if !isTransientUpstreamErrorSignal errorCode errorMessage then none
  else
    some (checkedAt + match transientRetryCount with
      | 0 => seconds (5 * 60)
      | 1 => seconds (30 * 60)
      | _ => seconds (6 * 60 * 60))

def oauthVaultTerminalAuthRetryLimit : Nat := 3

def canRetryTransientAdmissionFailure (transientRetryCount : Nat) : Bool :=
  decide (transientRetryCount < oauthVaultTerminalAuthRetryLimit)

def canRetryFatalActivationFailure (failureCount : Nat) : Bool :=
  decide (failureCount < oauthVaultTerminalAuthRetryLimit)

def classifyVaultActivationErrorCode (message : String) : String :=
  let mentions := Text.contains (Text.toAsciiLowercase message)
  if mentions "refresh token reused" then "refresh_token_reused"
  else if mentions "refresh token revoked" then "refresh_token_revoked"
  else if mentions "invalid refresh token" then "invalid_refresh_token"
  else if mentions "missing client id" then "missing_client_id"
  else if mentions "unauthorized client" then "unauthorized_client"
  else if mentions "rate_limited" || mentions "rate limit" || mentions "too many requests" then
    "rate_limited"
  else if mentions "upstream unavailable" || mentions "service unavailable" ||
      mentions "temporarily unavailable" then "upstream_unavailable"
  else "vault_activation_failed"

def vaultActivationBackoff : Nat → Int
  | 0 => seconds 30
  | 1 => seconds 60
  | 2 => seconds 120
  | _ => seconds 300

def deriveAdmissionRateLimitsExpiresAt (cfg : OAuthConfig)
    (snapshots : List OAuthRateLimitSnapshot) (checkedAt : DateTime) : Option DateTime :=
  if snapshots.isEmpty then none
  else
    some ((deriveRateLimitBlock checkedAt snapshots).1.getD (checkedAt + cfg.rateLimitCacheTtl))

def rateLimitBlockMessage (blockReason : String) : String :=
  if normalizeErrorCodeForHealth blockReason = "secondary_window_exhausted" then
    "secondary rate limit window is exhausted until reset"
  else if normalizeErrorCodeForHealth blockReason = "primary_window_exhausted" then
    "primary rate limit window is exhausted until reset"
  else "rate limit window is exhausted until reset"

/-! ## Changes of a record -/

/-- Counters have 32 bits. -/
def nextCount (count : Nat) : Nat := min (count + 1) (2 ^ 32 - 1)

/-- What a probe of a record finds. -/
structure OAuthVaultAdmissionResult where
  status : OAuthVaultRecordStatus
  checkedAt : DateTime
  admissionSource : Option String
  retryAfter : Option DateTime
  errorCode : Option String
  errorMessage : Option String
  fallbackTokenExpiresAt : Option DateTime
  rateLimits : List OAuthRateLimitSnapshot
  rateLimitsExpiresAt : Option DateTime
  failureStage : Option OAuthInventoryFailureStage
  retryable : Bool
  terminalReason : Option String
  incrementTransientRetryCount : Bool

namespace OAuthRefreshTokenVaultRecord

variable (record : OAuthRefreshTokenVaultRecord)

/-- The record fails by hand. -/
def markedFailed (cfg : OAuthConfig) (reason : Option String) (now : DateTime) :
    OAuthRefreshTokenVaultRecord :=
  { record with
    status := .failed
    admissionCheckedAt := some now
    admissionRetryAfter := none
    nextRetryAt := some (now + cfg.pendingPurgeDelay)
    retryable := false
    terminalReason :=
      if record.terminalReason.isNone || reason.isSome then
        (reason.or record.terminalReason).or record.admissionErrorCode
      else record.terminalReason
    updatedAt := now }

/-- The record is queued once more. -/
def restored (now : DateTime) : OAuthRefreshTokenVaultRecord :=
  { record with
    status := .queued
    failureCount := 0
    backoffUntil := none
    nextAttemptAt := some now
    lastErrorCode := none
    lastErrorMessage := none
    admissionSource := none
    admissionCheckedAt := none
    admissionRetryAfter := none
    admissionErrorCode := none
    admissionErrorMessage := none
    admissionRateLimits := []
    admissionRateLimitsExpiresAt := none
    failureStage := none
    attemptCount := 0
    transientRetryCount := 0
    nextRetryAt := some now
    retryable := true
    terminalReason := none
    updatedAt := now }

/-- The record after a probe. -/
def admitted (result : OAuthVaultAdmissionResult) : OAuthRefreshTokenVaultRecord :=
  { record with
    status := result.status
    admissionSource := result.admissionSource
    admissionCheckedAt := some result.checkedAt
    admissionRetryAfter := result.retryAfter
    admissionErrorCode := result.errorCode
    admissionErrorMessage := result.errorMessage
    fallbackTokenExpiresAt := result.fallbackTokenExpiresAt.or record.fallbackTokenExpiresAt
    admissionRateLimits := result.rateLimits
    admissionRateLimitsExpiresAt := result.rateLimitsExpiresAt
    failureStage := result.failureStage
    attemptCount := nextCount record.attemptCount
    transientRetryCount :=
      if result.incrementTransientRetryCount then nextCount record.transientRetryCount
      else record.transientRetryCount
    nextRetryAt := result.retryAfter
    retryable := result.retryable
    terminalReason := result.terminalReason
    updatedAt := result.checkedAt }

/-- The activation of a record may be tried again after the failure. -/
def allowsRetry (errorCode : String) : Bool :=
  if ["credential_cipher_missing", "credential_decrypt_failed"].contains
      (normalizeErrorCodeForHealth errorCode) then false
  else if isFatalRefreshErrorCode (some errorCode) then
    canRetryFatalActivationFailure (nextCount record.failureCount)
  else true

def oauthVaultActivationFallbackStatus : OAuthVaultRecordStatus → OAuthVaultRecordStatus
  | .ready => .needsRefresh
  | other => other

/-- The record after an activation that has failed, with the status that it was taken with. -/
def activationFailed (candidateStatus : OAuthVaultRecordStatus) (errorCode errorMessage : String)
    (now : DateTime) : OAuthRefreshTokenVaultRecord :=
  let failureCount := nextCount record.failureCount
  let retryAt := now + vaultActivationBackoff failureCount
  let failed := { record with
    failureCount
    lastErrorCode := some errorCode
    lastErrorMessage := some errorMessage
    failureStage := some .activationRefresh
    attemptCount := nextCount record.attemptCount
    updatedAt := now }
  if record.allowsRetry errorCode then
    { failed with
      status := oauthVaultActivationFallbackStatus candidateStatus
      retryable := true
      terminalReason := none
      backoffUntil := some retryAt
      nextAttemptAt := some retryAt
      nextRetryAt := some retryAt }
  else
    { failed with
      status := .failed
      retryable := false
      terminalReason := some errorCode
      backoffUntil := none
      nextAttemptAt := none
      nextRetryAt := none }

end OAuthRefreshTokenVaultRecord

/-! ## Probes -/

abbrev ProbeAnswer := Except OAuthTokenClientError (List OAuthRateLimitSnapshot)

/-- A probe that waits for the upstream, with the record that it has read. -/
structure ProbeCall where
  record : OAuthRefreshTokenVaultRecord
  fallbackAccessToken : String
  checkedAt : DateTime

namespace OAuthVaultAdmissionResult

/-- The probe fails before it is sent. -/
def unusable (checkedAt : DateTime) (admissionSource : Option String)
    (errorCode errorMessage : String) : OAuthVaultAdmissionResult where
  status := .failed
  checkedAt := checkedAt
  admissionSource := admissionSource
  retryAfter := none
  errorCode := some errorCode
  errorMessage := some errorMessage
  fallbackTokenExpiresAt := none
  rateLimits := []
  rateLimitsExpiresAt := none
  failureStage := some .admissionProbe
  retryable := false
  terminalReason := some errorCode
  incrementTransientRetryCount := false

/-- A refresh is needed before the record can be used. -/
def refreshNeeded (checkedAt : DateTime) (admissionSource : Option String)
    (errorCode errorMessage : String) (rateLimits : List OAuthRateLimitSnapshot)
    (rateLimitsExpiresAt : Option DateTime) : OAuthVaultAdmissionResult where
  status := .needsRefresh
  checkedAt := checkedAt
  admissionSource := admissionSource
  retryAfter := none
  errorCode := some errorCode
  errorMessage := some errorMessage
  fallbackTokenExpiresAt := none
  rateLimits := rateLimits
  rateLimitsExpiresAt := rateLimitsExpiresAt
  failureStage := some .admissionProbe
  retryable := true
  terminalReason := none
  incrementTransientRetryCount := false

end OAuthVaultAdmissionResult

section Probe

variable (cfg : OAuthConfig)

/-- A probe finds its result at once, or asks for the rate limits of the access token. -/
def startProbe (record : OAuthRefreshTokenVaultRecord) (checkedAt : DateTime) :
    OAuthVaultAdmissionResult ⊕ ProbeCall :=
  match cfg.credentialCipher with
  | none =>
    .inl (.unusable checkedAt none "credential_cipher_missing"
      "oauth credential cipher is not configured")
  | some cipher =>
    match record.fallbackAccessTokenEnc with
    | none =>
      .inl (.refreshNeeded checkedAt none "missing_access_token_fallback"
        "fallback access token is not available" [] none)
    | some fallbackTokenEnc =>
      match cipher.decrypt fallbackTokenEnc with
      | .ok value =>
        if Text.trim value ≠ "" then .inr ⟨record, value, checkedAt⟩
        else
          .inl (.unusable checkedAt (some "fallback_access_token") "credential_decrypt_failed"
            "fallback access token is empty")
      | .error e =>
        .inl (.unusable checkedAt (some "fallback_access_token") "credential_decrypt_failed"
          (truncateErrorMessage e))

/-- Whether a refused probe leaves the record to be probed again. -/
def refusalRetryable (status : OAuthVaultRecordStatus) (retryAfter : Option DateTime)
    (fatalAuth : Bool) : Bool :=
  match status with
  | .ready => false
  | .needsRefresh => true
  | .noQuota => retryAfter.isSome
  | .failed => retryAfter.isSome && !fatalAuth
  | .queued => false

def probeRefused (record : OAuthRefreshTokenVaultRecord) (checkedAt : DateTime)
    (fallbackExpiresAt : Option DateTime) (errorCode errorMessage : String) :
    OAuthVaultAdmissionResult :=
  let transientSignal := isTransientUpstreamErrorSignal errorCode errorMessage
  let retryAfter :=
    if transientSignal && !canRetryTransientAdmissionFailure record.transientRetryCount then none
    else
      admissionProbeRetryAfterWithBudget cfg checkedAt errorCode errorMessage
        record.transientRetryCount
  let fatalAuth := isFatalRefreshErrorCode (some errorCode)
  let status : OAuthVaultRecordStatus :=
    if fatalAuth then .failed
    else if retryAfter.isSome && (isQuotaErrorSignal errorCode errorMessage ||
        isRateLimitedSignal errorCode errorMessage) then .noQuota
    else if isAuthErrorSignal errorCode errorMessage then .needsRefresh
    else .failed
  let retryable := refusalRetryable status retryAfter fatalAuth
  { status
    checkedAt
    admissionSource := some "fallback_access_token"
    retryAfter
    errorCode := some errorCode
    errorMessage := some errorMessage
    fallbackTokenExpiresAt := fallbackExpiresAt
    rateLimits := []
    rateLimitsExpiresAt := retryAfter
    failureStage := some .admissionProbe
    retryable
    terminalReason := if retryable then none else some errorCode
    incrementTransientRetryCount := transientSignal && retryAfter.isSome }

/-- What a probe finds once it is answered. -/
def probeResult (call : ProbeCall) (answer : ProbeAnswer) : OAuthVaultAdmissionResult :=
  let fallbackExpiresAt := call.record.fallbackTokenExpiresAt.or
    (cfg.parseJwtExpFromAccessToken call.fallbackAccessToken)
  match answer with
  | .ok rateLimits =>
    let rateLimitsExpiresAt := deriveAdmissionRateLimitsExpiresAt cfg rateLimits call.checkedAt
    if fallbackExpiresAt.isNone then
      .refreshNeeded call.checkedAt (some "fallback_access_token") "expiry_unknown"
        "fallback access token expiry is unknown" rateLimits rateLimitsExpiresAt
    else
      match deriveRateLimitBlock call.checkedAt rateLimits with
      | (blockedUntil, some blockReason) =>
        { status := .noQuota
          checkedAt := call.checkedAt
          admissionSource := some "fallback_access_token"
          retryAfter := blockedUntil
          errorCode := some blockReason
          errorMessage := some (rateLimitBlockMessage blockReason)
          fallbackTokenExpiresAt := fallbackExpiresAt
          rateLimits
          rateLimitsExpiresAt
          failureStage := some .admissionProbe
          retryable := true
          terminalReason := none
          incrementTransientRetryCount := false }
      | (_, none) =>
        { status := .ready
          checkedAt := call.checkedAt
          admissionSource := some "fallback_access_token"
          retryAfter := none
          errorCode := none
          errorMessage := none
          fallbackTokenExpiresAt := fallbackExpiresAt
          rateLimits
          rateLimitsExpiresAt
          failureStage := none
          retryable := false
          terminalReason := none
          incrementTransientRetryCount := false }
  | .error err =>
    probeRefused cfg call.record call.checkedAt fallbackExpiresAt err.code.asStr
      (truncateErrorMessage err.display)

end Probe

/-! ## The vault -/

namespace OAuthStore

variable (cfg : OAuthConfig) (s : OAuthStore)

def vaultRecord? (recordId : Uuid) : Option OAuthRefreshTokenVaultRecord :=
  Keyed.lookupBy OAuthRefreshTokenVaultRecord.id s.vault recordId

def updateVaultRecord (recordId : Uuid)
    (f : OAuthRefreshTokenVaultRecord → OAuthRefreshTokenVaultRecord) : OAuthStore :=
  { s with vault := s.vault.map fun r => if r.id = recordId then f r else r }

def removeVaultRecords (p : OAuthRefreshTokenVaultRecord → Bool) : OAuthStore :=
  { s with vault := s.vault.filter fun r => !p r }

def markOauthInventoryRecordsFailedInner (recordIds : List Uuid) (reason : Option String)
    (now : DateTime) : OAuthStore :=
  { s with vault := s.vault.map fun r =>
      if r.id ∈ recordIds then r.markedFailed cfg (Text.trimmed? reason) now else r }

def deleteOauthInventoryRecordsInner (recordIds : List Uuid) : OAuthStore :=
  s.removeVaultRecords (·.id ∈ recordIds)

def deleteOauthInventoryRecordInner (recordId : Uuid) : Result OAuthStore :=
  match s.vaultRecord? recordId with
  | none => .error "oauth inventory record not found"
  | some _ => .ok (s.deleteOauthInventoryRecordsInner [recordId])

def restoreOauthInventoryRecordsInner (recordIds : List Uuid) (now : DateTime) : OAuthStore :=
  { s with vault := s.vault.map fun r => if r.id ∈ recordIds then r.restored now else r }

/-- The record is deleted when its time has come. -/
def isPurgeable (record : OAuthRefreshTokenVaultRecord) : Bool :=
  record.status = .failed && !record.retryable

def purgeDueOauthInventoryRecordsInner (now : DateTime) : OAuthStore :=
  s.removeVaultRecords fun r =>
    isPurgeable r && decide (r.nextRetryAt.getD (r.updatedAt + cfg.pendingPurgeDelay) ≤ now)

/-! ### Queueing -/

def oauthVaultRecordIdForRequest (req : ImportOAuthRefreshTokenRequest) : Option Uuid :=
  (s.vault.find? (·.refreshTokenSha256 = cfg.refreshTokenSha256 req.refreshToken)).map (·.id)

def queuedRecord (cipher : CredentialCipher) (req : ImportOAuthRefreshTokenRequest)
    (recordId : Uuid) (createdAt now : DateTime) : Result OAuthRefreshTokenVaultRecord := do
  let fallbackAccessTokenEnc ← (Text.trimmed? req.fallbackAccessToken).mapM cipher.encrypt
  let refreshTokenEnc ← cipher.encrypt req.refreshToken
  let desiredMode := resolveOauthImportMode req.mode req.sourceType
  pure {
    id := recordId
    label := req.label
    email := none
    baseUrl := cfg.normalizeUpstreamAccountBaseUrl desiredMode req.baseUrl
    refreshTokenEnc
    fallbackAccessTokenEnc
    fallbackTokenExpiresAt := req.fallbackTokenExpiresAt
    refreshTokenSha256 := cfg.refreshTokenSha256 req.refreshToken
    chatgptAccountId := req.chatgptAccountId
    chatgptPlanType := req.chatgptPlanType
    sourceType := req.sourceType
    desiredMode
    desiredEnabled := req.enabled.getD true
    desiredPriority := req.priority.getD 100
    status := .queued
    failureCount := 0
    backoffUntil := none
    nextAttemptAt := some now
    lastErrorCode := none
    lastErrorMessage := none
    admissionSource := none
    admissionCheckedAt := none
    admissionRetryAfter := none
    admissionErrorCode := none
    admissionErrorMessage := none
    admissionRateLimits := []
    admissionRateLimitsExpiresAt := none
    failureStage := none
    attemptCount := 0
    transientRetryCount := 0
    nextRetryAt := some now
    retryable := true
    terminalReason := none
    createdAt
    updatedAt := now }

/-! ### Probing -/

def updateOauthVaultAdmissionResult (recordId : Uuid) (result : OAuthVaultAdmissionResult) :
    OAuthStore :=
  s.updateVaultRecord recordId (·.admitted result)

def isReprobeCandidate (now : DateTime) (record : OAuthRefreshTokenVaultRecord) : Bool :=
  (record.status = .noQuota || record.status = .failed) && record.admissionRetryAfter.any (· ≤ now)

/-- Records are ordered by a rank, then by the times of their creation and by their ids. -/
def comesFirst (rank : OAuthRefreshTokenVaultRecord → Int)
    (a b : OAuthRefreshTokenVaultRecord) : Bool :=
  decide (rank a < rank b) || rank a = rank b && (decide (a.createdAt < b.createdAt) ||
    a.createdAt = b.createdAt && decide (a.id.text ≤ b.id.text))

def oauthVaultAdmissionReprobeCandidatesInner (now : DateTime) (limit : Nat) : List Uuid :=
  (((s.vault.filter (isReprobeCandidate now)).mergeSort
    (comesFirst fun r => r.admissionRetryAfter.getD 0)).take limit).map (·.id)

/-! ### Activating -/

def oauthVaultActivationPriority : OAuthVaultRecordStatus → Int
  | .ready => 0
  | .needsRefresh => 1
  | .queued => 2
  | .noQuota => 3
  | .failed => 4

def isActivationCandidate (now : DateTime) (record : OAuthRefreshTokenVaultRecord) : Bool :=
  (record.status = .ready || record.status = .needsRefresh || record.status = .queued) &&
    record.backoffUntil.all (· ≤ now) && record.nextAttemptAt.all (· ≤ now)

def oauthVaultActivationCandidatesInner (now : DateTime) (limit : Nat) :
    List OAuthRefreshTokenVaultRecord :=
  ((s.vault.filter (isActivationCandidate now)).mergeSort
    (comesFirst fun r => oauthVaultActivationPriority r.status)).take limit

def markOauthVaultActivationFailedInner (recordId : Uuid)
    (candidateStatus : OAuthVaultRecordStatus) (errorCode errorMessage : String)
    (now : DateTime) : OAuthStore :=
  s.updateVaultRecord recordId (·.activationFailed candidateStatus errorCode errorMessage now)

/-- The import of a record. The outer error ends the batch, the inner one fails the record. -/
def activationRequest (candidate : OAuthRefreshTokenVaultRecord) :
    Result (Result ImportOAuthRefreshTokenRequest) := do
  let cipher ← cfg.requireCredentialCipher
  match cipher.decrypt candidate.refreshTokenEnc with
  | .error e => pure (.error (truncateErrorMessage e))
  | .ok refreshToken => do
    let fallbackAccessToken ← candidate.fallbackAccessTokenEnc.mapM cipher.decrypt
    pure (.ok {
      label := candidate.label
      baseUrl := candidate.baseUrl
      refreshToken
      fallbackAccessToken
      fallbackTokenExpiresAt := candidate.fallbackTokenExpiresAt
      chatgptAccountId := candidate.chatgptAccountId
      mode := some candidate.desiredMode
      enabled := some candidate.desiredEnabled
      priority := some candidate.desiredPriority
      chatgptPlanType := candidate.chatgptPlanType
      sourceType := candidate.sourceType })

/-- The activation of a record has come to an end: its account is in the pool and the record is
gone, or the record has failed. -/
def finishActivation (candidate : OAuthRefreshTokenVaultRecord)
    (result : Result UpstreamAccount) (now : DateTime) : OAuthStore :=
  match result with
  | .ok account =>
    (s.setAccountPoolStateActiveInner account.id now).removeVaultRecords (·.id = candidate.id)
  | .error e =>
    s.markOauthVaultActivationFailedInner candidate.id candidate.status
      (classifyVaultActivationErrorCode (truncateErrorMessage e)) (truncateErrorMessage e) now

end OAuthStore

end CodexPool
