import CodexPool.ControlPlane.Account
import CodexPool.Lib.Json
import CodexPool.Lib.Keyed

/-!
# OAuth accounts in the in-memory store

The records that the in-memory store keeps of OAuth accounts and of the refresh tokens in its
vault, and the operations that change the credentials of accounts. An operation that asks the
upstream for tokens is cut where it waits: `start...` is what it does before the request is
sent, `finish...` what it does with the answer.
-/

namespace CodexPool

/-! ## Upstream answers -/

inductive OAuthRefreshErrorCode where
  | invalidRefreshToken
  | refreshTokenReused
  | refreshTokenRevoked
  | missingClientId
  | unauthorizedClient
  | rateLimited
  | upstreamUnavailable
  | unknown
deriving DecidableEq

def OAuthRefreshErrorCode.asStr : OAuthRefreshErrorCode → String
  | invalidRefreshToken => "invalid_refresh_token"
  | refreshTokenReused => "refresh_token_reused"
  | refreshTokenRevoked => "refresh_token_revoked"
  | missingClientId => "missing_client_id"
  | unauthorizedClient => "unauthorized_client"
  | rateLimited => "rate_limited"
  | upstreamUnavailable => "upstream_unavailable"
  | unknown => "unknown_oauth_error"

inductive OAuthTokenClientError where
  | notConfigured
  | invalidRefreshToken (code : OAuthRefreshErrorCode) (message : String)
  | upstream (code : OAuthRefreshErrorCode) (message : String)
  | parse
deriving DecidableEq

namespace OAuthTokenClientError

def code : OAuthTokenClientError → OAuthRefreshErrorCode
  | notConfigured => .unknown
  | invalidRefreshToken code _ => code
  | upstream code _ => code
  | parse => .unknown

def display : OAuthTokenClientError → String
  | notConfigured => "oauth token endpoint is not configured"
  | invalidRefreshToken code message =>
    "invalid refresh token (" ++ code.asStr ++ "): " ++ message
  | upstream code message => "oauth token endpoint error (" ++ code.asStr ++ "): " ++ message
  | parse => "oauth token response parse error"

end OAuthTokenClientError

/-- What a token says of its owner. -/
structure OAuthProfile where
  email : Option String
  oauthSubject : Option String
  oauthIdentityProvider : Option String
  emailVerified : Option Bool
  chatgptPlanType : Option String
  chatgptUserId : Option String
  chatgptSubscriptionActiveStart : Option DateTime
  chatgptSubscriptionActiveUntil : Option DateTime
  chatgptSubscriptionLastChecked : Option DateTime
  chatgptAccountUserId : Option String
  chatgptComputeResidency : Option String
  workspaceName : Option String
  organizations : Option (List Json)
  groups : Option (List Json)

def OAuthProfile.empty : OAuthProfile :=
  ⟨none, none, none, none, none, none, none, none, none, none, none, none, none, none⟩

/-- The first profile, filled up with the second. -/
def OAuthProfile.or (p q : OAuthProfile) : OAuthProfile where
  email := p.email.or q.email
  oauthSubject := p.oauthSubject.or q.oauthSubject
  oauthIdentityProvider := p.oauthIdentityProvider.or q.oauthIdentityProvider
  emailVerified := p.emailVerified.or q.emailVerified
  chatgptPlanType := p.chatgptPlanType.or q.chatgptPlanType
  chatgptUserId := p.chatgptUserId.or q.chatgptUserId
  chatgptSubscriptionActiveStart :=
    p.chatgptSubscriptionActiveStart.or q.chatgptSubscriptionActiveStart
  chatgptSubscriptionActiveUntil :=
    p.chatgptSubscriptionActiveUntil.or q.chatgptSubscriptionActiveUntil
  chatgptSubscriptionLastChecked :=
    p.chatgptSubscriptionLastChecked.or q.chatgptSubscriptionLastChecked
  chatgptAccountUserId := p.chatgptAccountUserId.or q.chatgptAccountUserId
  chatgptComputeResidency := p.chatgptComputeResidency.or q.chatgptComputeResidency
  workspaceName := p.workspaceName.or q.workspaceName
  organizations := p.organizations.or q.organizations
  groups := p.groups.or q.groups

structure OAuthTokenInfo where
  accessToken : String
  refreshToken : String
  expiresAt : DateTime
  chatgptAccountId : Option String
  profile : OAuthProfile

abbrev RefreshAnswer := Except OAuthTokenClientError OAuthTokenInfo

/-! ## Configuration -/

structure CredentialCipher where
  encrypt : String → Result String
  decrypt : String → Result String

/-- What the operations take from the configuration and from libraries. -/
structure OAuthConfig where
  credentialCipher : Option CredentialCipher
  refreshTokenSha256 : String → String
  normalizeUpstreamAccountBaseUrl : UpstreamMode → String → String
  parseJwtExpFromAccessToken : String → Option DateTime
  pendingPurgeDelay : Int
  rateLimitCacheTtl : Int
  rateLimitRefreshErrorBackoff : Int

def OAuthConfig.requireCredentialCipher (cfg : OAuthConfig) : Result CredentialCipher :=
  match cfg.credentialCipher with
  | some cipher => .ok cipher
  | none =>
    .error "oauth credential encryption key is missing: set CREDENTIALS_ENCRYPTION_KEY"

theorem OAuthConfig.requireCredentialCipher_eq_ok {cfg : OAuthConfig} {cipher : CredentialCipher} :
    cfg.requireCredentialCipher = .ok cipher ↔ cfg.credentialCipher = some cipher := by
  unfold requireCredentialCipher
  cases cfg.credentialCipher <;> simp

def oauthManagedBearerSentinel : String := "__managed_oauth__"

def oauthRefreshWindow : Int := seconds 300

def truncateErrorMessage (raw : String) : String :=
  if raw.utf8ByteSize ≤ 256 then raw else String.ofList (raw.toList.take 256)

/-! ## Records -/

structure OAuthCredentialRecord where
  accessTokenEnc : String
  refreshTokenEnc : String
  fallbackAccessTokenEnc : Option String
  refreshTokenSha256 : String
  tokenFamilyId : String
  tokenVersion : Nat
  tokenExpiresAt : DateTime
  fallbackTokenExpiresAt : Option DateTime
  lastRefreshAt : Option DateTime
  lastRefreshStatus : OAuthRefreshStatus
  refreshReusedDetected : Bool
  lastRefreshErrorCode : Option String
  lastRefreshError : Option String
  refreshFailureCount : Nat
  refreshBackoffUntil : Option DateTime
deriving DecidableEq

namespace OAuthCredentialRecord

def fromTokenInfo (cfg : OAuthConfig) (cipher : CredentialCipher) (info : OAuthTokenInfo)
    (familyId : String) (now : DateTime) : Result OAuthCredentialRecord := do
  let accessTokenEnc ← cipher.encrypt info.accessToken
  let refreshTokenEnc ← cipher.encrypt info.refreshToken
  pure {
    accessTokenEnc
    refreshTokenEnc
    fallbackAccessTokenEnc := none
    refreshTokenSha256 := cfg.refreshTokenSha256 info.refreshToken
    tokenFamilyId := familyId
    tokenVersion := 1
    tokenExpiresAt := info.expiresAt
    fallbackTokenExpiresAt := none
    lastRefreshAt := some now
    lastRefreshStatus := .ok
    refreshReusedDetected := false
    lastRefreshErrorCode := none
    lastRefreshError := none
    refreshFailureCount := 0
    refreshBackoffUntil := none }

def backoffDuration (credential : OAuthCredentialRecord) : Int :=
  match credential.refreshFailureCount with
  | 0 => seconds 0
  | 1 => seconds 30
  | 2 => seconds 60
  | 3 => seconds 120
  | _ => seconds 300

def hasAccessTokenFallback (credential : OAuthCredentialRecord) : Bool :=
  credential.fallbackAccessTokenEnc.isSome

def setFallbackAccessToken (credential : OAuthCredentialRecord) (cipher : CredentialCipher)
    (fallbackAccessToken : Option String) (fallbackTokenExpiresAt : Option DateTime) :
    Result OAuthCredentialRecord :=
  match Text.trimmed? fallbackAccessToken with
  | none => .ok { credential with fallbackAccessTokenEnc := none, fallbackTokenExpiresAt := none }
  | some token => do
    let enc ← cipher.encrypt token
    pure { credential with
      fallbackAccessTokenEnc := some enc
      fallbackTokenExpiresAt := fallbackTokenExpiresAt }

/-- The refresh credential is invalid for good, and the fallback token can be used instead. -/
def coveredByFallback (credential : OAuthCredentialRecord) (now : DateTime) : Bool :=
  refreshCredentialIsTerminalInvalid credential.lastRefreshStatus
      credential.refreshReusedDetected credential.lastRefreshErrorCode &&
    hasUsableAccessTokenFallback now credential.hasAccessTokenFallback
      credential.fallbackTokenExpiresAt

def inBackoff (credential : OAuthCredentialRecord) (now : DateTime) : Bool :=
  credential.refreshBackoffUntil.any (now < ·)

/-- The record that a failed refresh leaves. The failures are counted in 32 bits. -/
def failed (credential : OAuthCredentialRecord) (err : OAuthTokenClientError) (now : DateTime) :
    OAuthCredentialRecord :=
  let errorCode := err.code.asStr
  let failed := { credential with
    lastRefreshStatus := .failed
    lastRefreshAt := some now
    refreshReusedDetected := shouldRevokeOauthTokenFamily errorCode
    lastRefreshErrorCode := some errorCode
    lastRefreshError := some (truncateErrorMessage err.display)
    refreshFailureCount := min (credential.refreshFailureCount + 1) (2 ^ 32 - 1) }
  { failed with refreshBackoffUntil := some (now + failed.backoffDuration) }

/-- Versions are counted in 64 bits. -/
def nextVersion (version : Nat) : Nat := min (version + 1) (2 ^ 64 - 1)

theorem fromTokenInfo_eq_ok {cfg : OAuthConfig} {cipher : CredentialCipher} {info : OAuthTokenInfo}
    {familyId : String} {now : DateTime} {credential : OAuthCredentialRecord}
    (h : fromTokenInfo cfg cipher info familyId now = .ok credential) :
    cipher.encrypt info.accessToken = .ok credential.accessTokenEnc ∧
      cipher.encrypt info.refreshToken = .ok credential.refreshTokenEnc ∧
        credential.refreshTokenSha256 = cfg.refreshTokenSha256 info.refreshToken := by
  unfold fromTokenInfo at h
  simp only [Result.bind_eq_ok, pure, Except.pure, Except.ok.injEq] at h
  obtain ⟨accessTokenEnc, haccess, refreshTokenEnc, hrefresh, rfl⟩ := h
  exact ⟨haccess, hrefresh, rfl⟩

theorem fromTokenInfo_first {cfg : OAuthConfig} {cipher : CredentialCipher}
    {info : OAuthTokenInfo} {familyId : String} {now : DateTime}
    {credential : OAuthCredentialRecord}
    (h : fromTokenInfo cfg cipher info familyId now = .ok credential) :
    credential.tokenVersion = 1 ∧ credential.fallbackAccessTokenEnc = none ∧
      credential.fallbackTokenExpiresAt = none := by
  unfold fromTokenInfo at h
  simp only [Result.bind_eq_ok, pure, Except.pure, Except.ok.injEq] at h
  obtain ⟨accessTokenEnc, -, refreshTokenEnc, -, rfl⟩ := h
  exact ⟨rfl, rfl, rfl⟩

theorem setFallbackAccessToken_eq_ok {credential credential' : OAuthCredentialRecord}
    {cipher : CredentialCipher} {token : Option String} {expiresAt : Option DateTime}
    (h : credential.setFallbackAccessToken cipher token expiresAt = .ok credential') :
    ∃ enc expires, credential' =
      { credential with fallbackAccessTokenEnc := enc, fallbackTokenExpiresAt := expires } := by
  unfold setFallbackAccessToken at h
  split at h
  · obtain rfl := Except.ok.inj h
    exact ⟨none, none, rfl⟩
  · simp only [Result.bind_eq_ok, pure, Except.pure, Except.ok.injEq] at h
    obtain ⟨enc, -, rfl⟩ := h
    exact ⟨some enc, expiresAt, rfl⟩

end OAuthCredentialRecord

structure SessionProfileRecord where
  credentialKind : SessionCredentialKind
  tokenExpiresAt : Option DateTime
  profile : OAuthProfile
  sourceType : Option String

namespace SessionProfileRecord

def fromOauthTokenInfo (info : OAuthTokenInfo) (credentialKind : SessionCredentialKind)
    (chatgptPlanType sourceType : Option String) : SessionProfileRecord where
  credentialKind := credentialKind
  tokenExpiresAt := some info.expiresAt
  profile := { info.profile with
    chatgptPlanType := chatgptPlanType.or info.profile.chatgptPlanType }
  sourceType := sourceType

def mergeOauthTokenInfo (record : SessionProfileRecord) (info : OAuthTokenInfo)
    (credentialKind : SessionCredentialKind) (chatgptPlanType sourceType : Option String) :
    SessionProfileRecord where
  credentialKind := credentialKind
  tokenExpiresAt := some info.expiresAt
  profile := { info.profile.or record.profile with
    chatgptPlanType := (chatgptPlanType.or info.profile.chatgptPlanType).or
      record.profile.chatgptPlanType }
  sourceType := sourceType.or record.sourceType

end SessionProfileRecord

inductive AccountProbeOutcome where
  | ok
  | quota
  | transient
  | fatal
deriving DecidableEq

structure UpstreamAccountHealthStateRecord where
  lastProbeAt : Option DateTime
  lastProbeOutcome : Option AccountProbeOutcome
  poolState : AccountPoolState
  quarantineUntil : Option DateTime
  quarantineReason : Option String
  pendingPurgeAt : Option DateTime
  pendingPurgeReason : Option String
  lastPoolTransitionAt : Option DateTime
deriving DecidableEq

def UpstreamAccountHealthStateRecord.default : UpstreamAccountHealthStateRecord :=
  ⟨none, none, .active, none, none, none, none, none⟩

inductive OAuthVaultRecordStatus where
  | queued
  | ready
  | needsRefresh
  | noQuota
  | failed
deriving DecidableEq

inductive OAuthInventoryFailureStage where
  | admissionProbe
  | activationRefresh
deriving DecidableEq

structure OAuthRefreshTokenVaultRecord where
  id : Uuid
  label : String
  email : Option String
  baseUrl : String
  refreshTokenEnc : String
  fallbackAccessTokenEnc : Option String
  fallbackTokenExpiresAt : Option DateTime
  refreshTokenSha256 : String
  chatgptAccountId : Option String
  chatgptPlanType : Option String
  sourceType : Option String
  desiredMode : UpstreamMode
  desiredEnabled : Bool
  desiredPriority : Int
  status : OAuthVaultRecordStatus
  failureCount : Nat
  backoffUntil : Option DateTime
  nextAttemptAt : Option DateTime
  lastErrorCode : Option String
  lastErrorMessage : Option String
  admissionSource : Option String
  admissionCheckedAt : Option DateTime
  admissionRetryAfter : Option DateTime
  admissionErrorCode : Option String
  admissionErrorMessage : Option String
  admissionRateLimits : List OAuthRateLimitSnapshot
  admissionRateLimitsExpiresAt : Option DateTime
  failureStage : Option OAuthInventoryFailureStage
  attemptCount : Nat
  transientRetryCount : Nat
  nextRetryAt : Option DateTime
  retryable : Bool
  terminalReason : Option String
  createdAt : DateTime
  updatedAt : DateTime
deriving DecidableEq

structure ImportOAuthRefreshTokenRequest where
  label : String
  baseUrl : String
  refreshToken : String
  fallbackAccessToken : Option String
  fallbackTokenExpiresAt : Option DateTime
  chatgptAccountId : Option String
  mode : Option UpstreamMode
  enabled : Option Bool
  priority : Option Int
  chatgptPlanType : Option String
  sourceType : Option String

def resolveOauthImportMode (mode : Option UpstreamMode) (sourceType : Option String) :
    UpstreamMode :=
  match mode with
  | some mode => mode
  | none =>
    if sourceType.any fun raw => Text.toAsciiLowercase (Text.trim raw) = "codex" then .codexOauth
    else .chatGptSession

/-- The maps of the store. The accounts and the vault are listed in the order in which the
store goes through its maps. -/
structure OAuthStore where
  accounts : List UpstreamAccount
  providers : Uuid → Option UpstreamAuthProvider
  credentials : Uuid → Option OAuthCredentialRecord
  sessionProfiles : Uuid → Option SessionProfileRecord
  healthStates : Uuid → Option UpstreamAccountHealthStateRecord
  vault : List OAuthRefreshTokenVaultRecord

namespace OAuthStore

variable (cfg : OAuthConfig) (s : OAuthStore)

def account? (accountId : Uuid) : Option UpstreamAccount :=
  Keyed.lookupBy UpstreamAccount.id s.accounts accountId

def isOauth (accountId : Uuid) : Bool := s.providers accountId = some .oauthRefreshToken

def insertAccount (account : UpstreamAccount) : OAuthStore :=
  { s with accounts := Keyed.upsertBy UpstreamAccount.id account s.accounts }

def updateAccount (accountId : Uuid) (f : UpstreamAccount → UpstreamAccount) : OAuthStore :=
  { s with accounts := s.accounts.map fun a => if a.id = accountId then f a else a }

def setProvider (accountId : Uuid) (provider : UpstreamAuthProvider) : OAuthStore :=
  { s with providers := Function.update s.providers accountId (some provider) }

def upsertOauthCredential (accountId : Uuid) (credential : OAuthCredentialRecord) : OAuthStore :=
  { s with credentials := Function.update s.credentials accountId (some credential) }

def upsertSessionProfile (accountId : Uuid) (profile : SessionProfileRecord) : OAuthStore :=
  { s with sessionProfiles := Function.update s.sessionProfiles accountId (some profile) }

def healthState (accountId : Uuid) : UpstreamAccountHealthStateRecord :=
  (s.healthStates accountId).getD .default

def setHealthState (accountId : Uuid) (state : UpstreamAccountHealthStateRecord) : OAuthStore :=
  { s with healthStates := Function.update s.healthStates accountId (some state) }

theorem healthState_setHealthState (accountId id : Uuid)
    (state : UpstreamAccountHealthStateRecord) :
    (s.setHealthState accountId state).healthState id =
      if id = accountId then state else s.healthState id := by
  unfold setHealthState healthState
  dsimp only
  by_cases hid : id = accountId
  · rw [hid, Function.update_self, if_pos rfl]
    rfl
  · rw [Function.update_of_ne hid, if_neg hid]

/-! ## The pool -/

/-- Reading the state of an account ends a quarantine that is over. -/
def accountPoolStateRecordInner (accountId : Uuid) (now : DateTime) : OAuthStore :=
  let state := s.healthState accountId
  s.setHealthState accountId
    (if state.poolState = .quarantine ∧ state.quarantineUntil.any (· ≤ now) then
      { state with
        poolState := .active
        quarantineUntil := none
        quarantineReason := none
        lastPoolTransitionAt := some now }
    else state)

def setAccountPoolStateActiveInner (accountId : Uuid) (at' : DateTime) : OAuthStore :=
  s.setHealthState accountId { s.healthState accountId with
    poolState := .active
    quarantineUntil := none
    quarantineReason := none
    pendingPurgeAt := none
    pendingPurgeReason := none
    lastPoolTransitionAt := some at' }

def recordAccountProbeResultInner (accountId : Uuid) (checkedAt : DateTime)
    (outcome : AccountProbeOutcome) : OAuthStore :=
  s.setHealthState accountId { s.healthState accountId with
    lastProbeAt := some checkedAt
    lastProbeOutcome := some outcome }

/-- An account that does not exist is left alone. -/
def markUpstreamAccountPendingPurgeInner (accountId : Uuid) (reason : Option String)
    (now : DateTime) : OAuthStore :=
  match s.account? accountId with
  | none => s
  | some _ =>
    let state := s.healthState accountId
    let scheduledAt := (state.pendingPurgeAt.filter (now < ·)).getD (now + cfg.pendingPurgeDelay)
    (s.updateAccount accountId fun a => { a with enabled := false }).setHealthState accountId
      { state with
        poolState := .pendingPurge
        quarantineUntil := none
        quarantineReason := none
        pendingPurgeAt := some scheduledAt
        pendingPurgeReason := (Text.trimmed? reason).or state.pendingPurgeReason
        lastPoolTransitionAt := some now }

def inFamily (familyId : String) (accountId : Uuid) : Bool :=
  (s.credentials accountId).any (·.tokenFamilyId = familyId)

def markOauthFamilyPendingPurgeInner (familyId : String) (reason : Option String)
    (now : DateTime) : OAuthStore :=
  ((s.accounts.map (·.id)).filter (s.inFamily familyId)).foldl
    (fun s accountId => s.markUpstreamAccountPendingPurgeInner cfg accountId reason now) s

def setOauthFamilyEnabledInner (accountId : Uuid) (enabled : Bool) (now : DateTime) :
    Result OAuthStore :=
  if !s.isOauth accountId then .error "account is not an oauth account"
  else
    match s.credentials accountId with
    | none => .error "oauth credential not found"
    | some target =>
      let familyId := target.tokenFamilyId
      let member := s.inFamily familyId
      .ok { s with
        credentials := fun id => (s.credentials id).map fun credential =>
          if enabled ∧ credential.tokenFamilyId = familyId then
            { credential with refreshReusedDetected := false, refreshBackoffUntil := none }
          else credential
        accounts := s.accounts.map fun a => if member a.id then { a with enabled := enabled } else a
        healthStates := fun id =>
          if enabled ∧ member id then (s.setAccountPoolStateActiveInner id now).healthStates id
          else s.healthStates id }

/-! ## Refreshing an account -/

/-- A refresh that waits for the upstream, with what it has read. -/
structure RefreshCall where
  accountId : Uuid
  baseUrl : String
  credential : OAuthCredentialRecord
  refreshToken : String
  now : DateTime
deriving DecidableEq

/-- The call, or nothing when the refresh returns the status of the account at once. -/
def startRefresh (accountId : Uuid) (force : Bool) (now : DateTime) :
    Result (Option RefreshCall) :=
  match s.account? accountId with
  | none => .error "account not found"
  | some account =>
    if !s.isOauth accountId then .ok none
    else
      match s.credentials accountId with
      | none => .error "oauth credential not found"
      | some credential =>
        if credential.coveredByFallback now then .ok none
        else if !(force || decide (credential.tokenExpiresAt ≤ now + oauthRefreshWindow)) then
          .ok none
        else if credential.inBackoff now then .ok none
        else do
          let cipher ← cfg.requireCredentialCipher
          let refreshToken ← cipher.decrypt credential.refreshTokenEnc
          pure (some { accountId, baseUrl := account.baseUrl, credential, refreshToken, now })

/-- The refresh is answered. `familyId` is the family that a new record would be given. -/
def finishRefresh (call : RefreshCall) (answer : RefreshAnswer) (familyId : String)
    (now : DateTime) : Result OAuthStore :=
  match answer with
  | .ok info => do
    let cipher ← cfg.requireCredentialCipher
    let credential ← OAuthCredentialRecord.fromTokenInfo cfg cipher info familyId now
    let s := s.upsertOauthCredential call.accountId { credential with
      tokenFamilyId := call.credential.tokenFamilyId
      tokenVersion := OAuthCredentialRecord.nextVersion call.credential.tokenVersion }
    let s := if info.chatgptAccountId.isSome then
        s.updateAccount call.accountId fun a => { a with chatgptAccountId := info.chatgptAccountId }
      else s
    let profile := match s.sessionProfiles call.accountId with
      | some profile => profile.mergeOauthTokenInfo info .refreshRotatable none none
      | none => .fromOauthTokenInfo info .refreshRotatable none none
    pure (s.upsertSessionProfile call.accountId profile)
  | .error err =>
    let credential := call.credential.failed err call.now
    let s := s.upsertOauthCredential call.accountId credential
    let errorCode := err.code.asStr
    .ok (if credential.refreshReusedDetected then
        s.markOauthFamilyPendingPurgeInner cfg credential.tokenFamilyId (some errorCode) now
      else if isFatalRefreshErrorCode (some errorCode) &&
          !hasUsableAccessTokenFallback call.now credential.hasAccessTokenFallback
            credential.fallbackTokenExpiresAt then
        s.markUpstreamAccountPendingPurgeInner cfg call.accountId (some errorCode) now
      else s)

end OAuthStore

/-! ## A plain configuration -/

/-- A cipher that leaves its texts as they are. -/
def plainCipher : CredentialCipher where
  encrypt := .ok
  decrypt := .ok

def plainConfig : OAuthConfig where
  credentialCipher := some plainCipher
  refreshTokenSha256 := ("sha-" ++ ·)
  normalizeUpstreamAccountBaseUrl := fun _ url => url
  parseJwtExpFromAccessToken := fun _ => none
  pendingPurgeDelay := seconds 3600
  rateLimitCacheTtl := seconds 60
  rateLimitRefreshErrorBackoff := seconds 60

def workspaceAccount (id workspace : String) (createdAt : DateTime) : UpstreamAccount where
  id := ⟨id⟩
  label := id
  mode := .codexOauth
  baseUrl := "https://chatgpt.com/backend-api/codex"
  bearerToken := oauthManagedBearerSentinel
  chatgptAccountId := some workspace
  enabled := true
  priority := 100
  createdAt := createdAt

/-- The credential that holds a refresh token in the plain configuration. -/
def plainCredential (refreshToken : String) (tokenExpiresAt : DateTime) :
    OAuthCredentialRecord where
  accessTokenEnc := "access"
  refreshTokenEnc := refreshToken
  fallbackAccessTokenEnc := none
  refreshTokenSha256 := "sha-" ++ refreshToken
  tokenFamilyId := "family"
  tokenVersion := 1
  tokenExpiresAt := tokenExpiresAt
  fallbackTokenExpiresAt := none
  lastRefreshAt := some 0
  lastRefreshStatus := .ok
  refreshReusedDetected := false
  lastRefreshErrorCode := none
  lastRefreshError := none
  refreshFailureCount := 0
  refreshBackoffUntil := none

/-- Tokens of which the upstream tells nothing else. -/
def anonymousTokens (refreshToken : String) (expiresAt : DateTime) : OAuthTokenInfo where
  accessToken := "access-" ++ refreshToken
  refreshToken := refreshToken
  expiresAt := expiresAt
  chatgptAccountId := none
  profile := OAuthProfile.empty

end CodexPool
