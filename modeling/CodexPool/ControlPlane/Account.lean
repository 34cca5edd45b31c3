import CodexPool.Core.Model
import Mathlib.Data.List.Sort
import Mathlib.Data.Rat.Init

/-!
# Accounts in the control plane

The row of an upstream account, joined with the rows that the other tables keep of
it, and what becomes of it in a snapshot and in an event: whether the account is
enabled once its credential and its rate limits are looked at, and which token it is
used with.
-/

namespace CodexPool

inductive SessionCredentialKind where
  | refreshRotatable
  | oneTimeAccessToken
deriving DecidableEq

inductive OAuthRefreshStatus where
  | never
  | ok
  | failed
deriving DecidableEq

inductive AccountPoolState where
  | active
  | quarantine
  | pendingPurge
deriving DecidableEq

structure OAuthRateLimitWindow where
  usedPercent : Rat
  windowMinutes : Option Int
  resetsAt : Option DateTime
deriving DecidableEq

structure OAuthRateLimitSnapshot where
  limitId : Option String
  limitName : Option String
  primary : Option OAuthRateLimitWindow
  secondary : Option OAuthRateLimitWindow
deriving DecidableEq

/-- A row of `upstream_account_oauth_credentials`. -/
structure CredentialRow where
  accessTokenEnc : String
  fallbackAccessTokenEnc : Option String
  tokenExpiresAt : DateTime
  fallbackTokenExpiresAt : Option DateTime
  lastRefreshStatus : OAuthRefreshStatus
  refreshReusedDetected : Bool
  lastRefreshErrorCode : Option String
  tokenFamilyId : Option String
deriving DecidableEq

/-- A row of `upstream_account_rate_limit_snapshots`. -/
structure RateLimitRow where
  rateLimits : List OAuthRateLimitSnapshot
  expiresAt : Option DateTime
  lastErrorCode : Option String
  lastErrorMessage : Option String
deriving DecidableEq

/-- A row of `upstream_account_session_profiles`. -/
structure SessionProfileRow where
  credentialKind : SessionCredentialKind
  tokenExpiresAt : Option DateTime
  chatgptPlanType : Option String
deriving DecidableEq

/-- A row of `upstream_accounts` with the rows of the tables that refer to it. They
have the id of the account as their key and are deleted with it. -/
structure AccountRow where
  id : Uuid
  label : String
  mode : UpstreamMode
  baseUrl : String
  bearerToken : String
  chatgptAccountId : Option String
  authProvider : UpstreamAuthProvider
  enabled : Bool
  poolState : AccountPoolState
  priority : Int
  createdAt : DateTime
  credential : Option CredentialRow
  rateLimit : Option RateLimitRow
  sessionProfile : Option SessionProfileRow
  supportedModels : Option (List String)
deriving DecidableEq

/-- Trims the texts of a list, drops the empty ones, and sorts what is left without
repetitions. -/
def normalizeStringList (values : List String) : List String :=
  (((values.map Text.trim).filter (· ≠ "")).insertionSort (· ≤ ·)).eraseReps

/-! ## Errors of a refresh -/

def oauthMinValid : Int := seconds 60

def normalizeErrorCodeForHealth (raw : String) : String :=
  Text.toAsciiLowercase (Text.trim raw)

def isQuotaErrorSignal (errorCode errorMessage : String) : Bool :=
  ["quota_exhausted", "usage_limit", "insufficient_quota", "quota_exceeded",
      "billing_hard_limit_reached"].contains (normalizeErrorCodeForHealth errorCode) ||
    ["usage limit", "insufficient quota", "quota exceeded", "billing hard limit",
      "start a free trial of plus"].any (Text.contains (Text.toAsciiLowercase errorMessage))

def isAuthErrorSignal (errorCode errorMessage : String) : Bool :=
  ["auth_expired", "token_invalidated", "invalid_refresh_token", "refresh_token_reused",
      "refresh_token_revoked", "missing_client_id", "unauthorized_client"].contains
        (normalizeErrorCodeForHealth errorCode) ||
    ["access token could not be refreshed", "logged out", "signed in to another account",
      "invalid refresh token"].any (Text.contains (Text.toAsciiLowercase errorMessage))

def isFatalRefreshErrorCode : Option String → Bool
  | none => false
  | some errorCode =>
    ["refresh_token_reused", "refresh_token_revoked", "invalid_refresh_token",
      "missing_client_id", "unauthorized_client"].contains
        (normalizeErrorCodeForHealth errorCode)

def shouldRevokeOauthTokenFamily (errorCode : String) : Bool :=
  ["refresh_token_reused", "refresh_token_revoked"].contains errorCode

def isBlockingRateLimitError (lastErrorCode lastError : Option String) : Bool :=
  match lastErrorCode with
  | none => false
  | some errorCode =>
    let errorMessage := lastError.getD ""
    isQuotaErrorSignal errorCode errorMessage || isAuthErrorSignal errorCode errorMessage ||
      ["primary_window_exhausted", "secondary_window_exhausted"].contains
        (normalizeErrorCodeForHealth errorCode)

section Clock

variable (now : DateTime)

def hasActiveRateLimitBlock (expiresAt : Option DateTime)
    (lastErrorCode lastError : Option String) : Bool :=
  expiresAt.any (now < ·) && isBlockingRateLimitError lastErrorCode lastError

def primaryRateLimitWindowMinutes : Int := 300

def secondaryRateLimitWindowMinutes : Int := 10080

/-- The latest time at which an exhausted window is reset. A window without a length
counts as one of the expected length. -/
def findBlockedUntilForWindow (snapshots : List OAuthRateLimitSnapshot) (secondary : Bool)
    (windowMinutes : Int) : Option DateTime :=
  (snapshots.filterMap fun snapshot => do
    let window ← if secondary then snapshot.secondary else snapshot.primary
    if window.usedPercent < 100 then none
    else if window.windowMinutes.any (· ≠ windowMinutes) then none
    else window.resetsAt.filter (now < ·)).max?

def deriveRateLimitBlock (snapshots : List OAuthRateLimitSnapshot) :
    Option DateTime × Option String :=
  match findBlockedUntilForWindow now snapshots true secondaryRateLimitWindowMinutes with
  | some blockedUntil => (some blockedUntil, some "secondary_window_exhausted")
  | none =>
    match findBlockedUntilForWindow now snapshots false primaryRateLimitWindowMinutes with
    | some blockedUntil => (some blockedUntil, some "primary_window_exhausted")
    | none => (none, none)

/-! ## Whether an account is enabled -/

def hasUsableAccessTokenFallback (hasAccessTokenFallback : Bool)
    (fallbackTokenExpiresAt : Option DateTime) : Bool :=
  hasAccessTokenFallback &&
    (fallbackTokenExpiresAt.map fun expiresAt => decide (now + oauthMinValid < expiresAt)).getD
      true

def refreshCredentialIsTerminalInvalid (lastRefreshStatus : OAuthRefreshStatus)
    (refreshReusedDetected : Bool) (lastRefreshErrorCode : Option String) : Bool :=
  refreshReusedDetected ||
    (lastRefreshStatus = .failed && isFatalRefreshErrorCode lastRefreshErrorCode)

namespace AccountRow

variable (row : AccountRow)

def tokenExpiresAt : Option DateTime := row.credential.map (·.tokenExpiresAt)

def hasAccessTokenFallback : Bool :=
  (row.credential.bind (·.fallbackAccessTokenEnc)).isSome

def fallbackUsable : Bool :=
  hasUsableAccessTokenFallback now row.hasAccessTokenFallback
    (row.credential.bind (·.fallbackTokenExpiresAt))

def terminalInvalid : Bool :=
  refreshCredentialIsTerminalInvalid ((row.credential.map (·.lastRefreshStatus)).getD .never)
    ((row.credential.map (·.refreshReusedDetected)).getD false)
    (row.credential.bind (·.lastRefreshErrorCode))

def shouldUseAccessTokenFallbackForRuntime : Bool :=
  row.fallbackUsable now && row.terminalInvalid &&
    !row.tokenExpiresAt.any (now + oauthMinValid < ·)

def credentialKind : Option SessionCredentialKind :=
  match row.authProvider, row.mode with
  | .oauthRefreshToken, _ => some .refreshRotatable
  | .legacyBearer, .chatGptSession | .legacyBearer, .codexOauth => some .oneTimeAccessToken
  | .legacyBearer, .openAiApiKey => none

def oauthEffectiveEnabled : Bool :=
  let baseEnabled := match row.authProvider, row.credentialKind with
    | .oauthRefreshToken, _ =>
      row.enabled && (row.tokenExpiresAt.any (now + oauthMinValid < ·) || row.fallbackUsable now)
    | _, some .oneTimeAccessToken =>
      row.enabled &&
        (row.tokenExpiresAt.map fun expiresAt => decide (now + oauthMinValid < expiresAt)).getD
          true
    | _, _ => row.enabled
  if !baseEnabled then false
  else if row.authProvider = .oauthRefreshToken then
    if row.terminalInvalid && !row.fallbackUsable now then false
    else !hasActiveRateLimitBlock now (row.rateLimit.bind (·.expiresAt))
      (row.rateLimit.bind (·.lastErrorCode)) (row.rateLimit.bind (·.lastErrorMessage))
  else true

/-! ## The token of an account -/

/-- The access token of an account that is refreshed by the control plane; `none`
disables the account. -/
def decryptAccessToken (cipher : Option (String → Option String)) : Option String :=
  match cipher with
  | none => none
  | some decrypt =>
    let decryptFallback := (row.credential.bind (·.fallbackAccessTokenEnc)).bind decrypt
    if row.shouldUseAccessTokenFallbackForRuntime now then decryptFallback
    else match row.credential with
      | some credential =>
        match decrypt credential.accessTokenEnc with
        | some accessToken => some accessToken
        | none => if row.fallbackUsable now then decryptFallback else none
      | none => if row.fallbackUsable now then decryptFallback else none

/-- The account of a row with the given token and flag. -/
def toAccount (bearerToken : String) (enabled : Bool) : UpstreamAccount :=
  { id := row.id, label := row.label, mode := row.mode, baseUrl := row.baseUrl
    bearerToken := bearerToken, chatgptAccountId := row.chatgptAccountId
    enabled := enabled, priority := row.priority, createdAt := row.createdAt }

/-- What `load_active_snapshot_accounts_and_traits_inner` makes of a row. -/
def snapshotAccount (cipher : Option (String → Option String)) : UpstreamAccount :=
  let enabled := row.oauthEffectiveEnabled now
  match row.authProvider with
  | .legacyBearer => row.toAccount row.bearerToken enabled
  | .oauthRefreshToken =>
    match row.decryptAccessToken now cipher with
    | some accessToken => row.toAccount accessToken enabled
    | none => row.toAccount "" false

/-- What `load_snapshot_account_by_id` makes of a row. The token of an account that
is not enabled is not looked at. -/
def eventAccount (cipher : Option (String → Option String)) : UpstreamAccount :=
  let enabled := row.oauthEffectiveEnabled now
  match row.authProvider with
  | .legacyBearer => row.toAccount row.bearerToken enabled
  | .oauthRefreshToken =>
    if enabled then
      match row.decryptAccessToken now cipher with
      | some accessToken => row.toAccount accessToken true
      | none => row.toAccount "" false
    else row.toAccount "" false

def traits : AccountRoutingTraits :=
  let block := deriveRateLimitBlock now ((row.rateLimit.map (·.rateLimits)).getD [])
  { accountId := row.id
    planType := row.sessionProfile.bind (·.chatgptPlanType)
    authProvider := some row.authProvider
    supportedModels := normalizeStringList (row.supportedModels.getD [])
    healthFreshness := none
    lastProbeAt := none
    blockedUntil := block.1
    hardBlockReason := block.2 }

end AccountRow

end Clock

/-! ## An account up to a token that is not used -/

/-- An account without its token when it is disabled: such a token is not used. -/
def UpstreamAccount.withoutIdleToken (account : UpstreamAccount) : UpstreamAccount :=
  if account.enabled then account else { account with bearerToken := "" }

namespace AccountRow

variable (now : DateTime) (row : AccountRow) (cipher : Option (String → Option String))

@[simp] theorem snapshotAccount_id : (row.snapshotAccount now cipher).id = row.id := by
  unfold snapshotAccount
  cases row.authProvider with
  | legacyBearer => rfl
  | oauthRefreshToken => cases row.decryptAccessToken now cipher <;> rfl

@[simp] theorem eventAccount_id : (row.eventAccount now cipher).id = row.id := by
  unfold eventAccount
  cases row.authProvider with
  | legacyBearer => rfl
  | oauthRefreshToken =>
      cases row.oauthEffectiveEnabled now with
      | false => rfl
      | true => cases row.decryptAccessToken now cipher <;> rfl

theorem withoutIdleToken_snapshotAccount :
    (row.snapshotAccount now cipher).withoutIdleToken =
      (row.eventAccount now cipher).withoutIdleToken := by
  unfold snapshotAccount eventAccount
  cases row.authProvider with
  | legacyBearer => rfl
  | oauthRefreshToken =>
      cases henabled : row.oauthEffectiveEnabled now with
      | true => simp
      | false =>
          cases row.decryptAccessToken now cipher with
          | none => simp
          | some accessToken => simp [UpstreamAccount.withoutIdleToken, toAccount]

end AccountRow

end CodexPool
