import CodexPool.ControlPlane.OAuthStore
import CodexPool.Lib.Latest

/-!
# Imports of OAuth accounts

A refresh token is imported by asking the upstream for tokens with it, and storing them for the
account that they belong to, or for a new one. A record of the vault that is ready is turned
into an account without asking. After an import, accounts with the same identity are reduced to
the latest of them.
-/

namespace CodexPool

/-! ## Identities -/

/-- The account is not later than the other: it was created before, or at the same time with a
smaller id. -/
def UpstreamAccount.NotAfter (a b : UpstreamAccount) : Prop :=
  a.createdAt < b.createdAt ∨ a.createdAt = b.createdAt ∧ a.id.text ≤ b.id.text

instance (a b : UpstreamAccount) : Decidable (a.NotAfter b) :=
  inferInstanceAs (Decidable (_ ∨ _))

/-- The latest of some accounts. -/
def latest (accounts : List UpstreamAccount) : Option UpstreamAccount :=
  Latest.latest UpstreamAccount.NotAfter accounts

/-- The text that stands for an identity. -/
def identityKeyOf (accountUserId userId accountId : Option String) : Option String :=
  ((Text.trimmed? accountUserId).map ("account_user:" ++ ·)).or do
    let user ← Text.trimmed? userId
    let account ← Text.trimmed? accountId
    some ("user_account:" ++ user ++ ":" ++ account)

namespace OAuthStore

variable (cfg : OAuthConfig) (s : OAuthStore)

def oauthAccounts : List UpstreamAccount := s.accounts.filter fun a => s.isOauth a.id

def identityKey (account : UpstreamAccount) : Option String :=
  (s.sessionProfiles account.id).bind fun record =>
    identityKeyOf record.profile.chatgptAccountUserId record.profile.chatgptUserId
      account.chatgptAccountId

/-- The account has the identity that is looked for. -/
def hasIdentity (accountUserId userId accountId : Option String) (account : UpstreamAccount) :
    Bool :=
  (s.sessionProfiles account.id).any fun record =>
    match Text.trimmed? accountUserId, Text.trimmed? userId, Text.trimmed? accountId with
    | some target, _, _ => record.profile.chatgptAccountUserId.map Text.trim = some target
    | none, some user, some target =>
      record.profile.chatgptUserId.map Text.trim = some user &&
        account.chatgptAccountId.map Text.trim = some target
    | none, _, _ => false

def canonicalOauthAccountIdByIdentity (accountUserId userId accountId : Option String) :
    Option Uuid :=
  (latest (s.oauthAccounts.filter (s.hasIdentity accountUserId userId accountId))).map (·.id)

def duplicate (target : Option String) (account : UpstreamAccount) : Bool :=
  s.isOauth account.id &&
    match s.identityKey account with
    | none => false
    | some key =>
      target.all (· = key) &&
        (latest (s.oauthAccounts.filter fun a => s.identityKey a = some key)).map (·.id) ≠
          some account.id

def removeAccounts (p : UpstreamAccount → Bool) : OAuthStore :=
  let doomed := (s.accounts.filter p).map (·.id)
  { s with
    accounts := s.accounts.filter fun a => a.id ∉ doomed
    providers := fun id => if id ∈ doomed then none else s.providers id
    credentials := fun id => if id ∈ doomed then none else s.credentials id
    sessionProfiles := fun id => if id ∈ doomed then none else s.sessionProfiles id
    healthStates := fun id => if id ∈ doomed then none else s.healthStates id }

def dedupeOauthAccountsByIdentityInner (accountUserId userId accountId : Option String) :
    OAuthStore :=
  s.removeAccounts (s.duplicate (identityKeyOf accountUserId userId accountId))

/-! ## Import of a refresh token -/

structure OAuthUpsertResult where
  account : UpstreamAccount
  created : Bool
deriving DecidableEq

/-- An import that waits for the upstream. -/
structure UpsertCall where
  req : ImportOAuthRefreshTokenRequest
  mode : UpstreamMode
  baseUrl : String

def startUpsert (req : ImportOAuthRefreshTokenRequest) : Result UpsertCall := do
  let _ ← cfg.requireCredentialCipher
  let mode := resolveOauthImportMode req.mode req.sourceType
  pure { req, mode, baseUrl := cfg.normalizeUpstreamAccountBaseUrl mode req.baseUrl }

/-- What is drawn when the answer comes: the id and the token family of a new account. -/
structure UpsertDraw where
  accountId : Uuid
  familyId : String
  now : DateTime
deriving DecidableEq

def importedAccount (call : UpsertCall) (info : OAuthTokenInfo) (draw : UpsertDraw) :
    UpstreamAccount where
  id := draw.accountId
  label := call.req.label
  mode := call.mode
  baseUrl := call.baseUrl
  bearerToken := oauthManagedBearerSentinel
  chatgptAccountId := call.req.chatgptAccountId.or info.chatgptAccountId
  enabled := call.req.enabled.getD true
  priority := call.req.priority.getD 100
  createdAt := draw.now

def importedCredential (call : UpsertCall) (info : OAuthTokenInfo) (draw : UpsertDraw) :
    Result OAuthCredentialRecord := do
  let cipher ← cfg.requireCredentialCipher
  let credential ← OAuthCredentialRecord.fromTokenInfo cfg cipher info draw.familyId draw.now
  credential.setFallbackAccessToken cipher call.req.fallbackAccessToken
    call.req.fallbackTokenExpiresAt

def importOauthRefreshTokenWithTokenInfoInner (call : UpsertCall) (info : OAuthTokenInfo)
    (draw : UpsertDraw) : Result OAuthUpsertResult × OAuthStore :=
  match importedCredential cfg call info draw with
  | .error e => (.error e, s)
  | .ok credential =>
    let account := importedAccount call info draw
    (.ok { account, created := true },
      (((s.insertAccount account).setProvider account.id
        .oauthRefreshToken).upsertOauthCredential account.id credential).upsertSessionProfile
          account.id (.fromOauthTokenInfo info .refreshRotatable call.req.chatgptPlanType
            call.req.sourceType))

/-- The account that an import belongs to: the first with the token that was answered, or the
latest with the identity that was. -/
def matchedAccountId (call : UpsertCall) (info : OAuthTokenInfo) : Option Uuid :=
  ((s.oauthAccounts.find? fun a =>
      (s.credentials a.id).any
        (·.refreshTokenSha256 = cfg.refreshTokenSha256 info.refreshToken)).map (·.id)).or
    (s.canonicalOauthAccountIdByIdentity info.profile.chatgptAccountUserId
      info.profile.chatgptUserId (call.req.chatgptAccountId.or info.chatgptAccountId))

def updatedAccount (call : UpsertCall) (info : OAuthTokenInfo) (account : UpstreamAccount) :
    UpstreamAccount :=
  { account with
    label := call.req.label
    mode := call.mode
    baseUrl := call.baseUrl
    bearerToken := oauthManagedBearerSentinel
    chatgptAccountId := call.req.chatgptAccountId.or info.chatgptAccountId
    enabled := call.req.enabled.getD true
    priority := call.req.priority.getD 100 }

/-- The credential of an account that an import updates. -/
def updatedCredential (call : UpsertCall) (info : OAuthTokenInfo) (draw : UpsertDraw)
    (existing : Option OAuthCredentialRecord) : Result OAuthCredentialRecord := do
  let cipher ← cfg.requireCredentialCipher
  let credential ← OAuthCredentialRecord.fromTokenInfo cfg cipher info draw.familyId draw.now
  let credential := match existing with
    | none => credential
    | some old => { credential with
        tokenFamilyId := old.tokenFamilyId
        tokenVersion := OAuthCredentialRecord.nextVersion old.tokenVersion }
  if (Text.trimmed? call.req.fallbackAccessToken).isSome then
    credential.setFallbackAccessToken cipher call.req.fallbackAccessToken
      call.req.fallbackTokenExpiresAt
  else
    pure (match existing with
      | none => credential
      | some old => { credential with
          fallbackAccessTokenEnc := old.fallbackAccessTokenEnc
          fallbackTokenExpiresAt := old.fallbackTokenExpiresAt })

/-- The tokens are stored for an account that exists. It has its new fields already when the
tokens cannot be encrypted. -/
def updateMatched (call : UpsertCall) (info : OAuthTokenInfo) (draw : UpsertDraw)
    (account : UpstreamAccount) : Result OAuthUpsertResult × OAuthStore :=
  let s' := s.updateAccount account.id (updatedAccount call info)
  match updatedCredential cfg call info draw (s.credentials account.id) with
  | .error e => (.error e, s')
  | .ok credential =>
    let profile := (s.sessionProfiles account.id).getD
      (.fromOauthTokenInfo info .refreshRotatable none none)
    (.ok { account := updatedAccount call info account, created := false },
      ((s'.setProvider account.id .oauthRefreshToken).upsertOauthCredential account.id
        credential).upsertSessionProfile account.id
          (profile.mergeOauthTokenInfo info .refreshRotatable call.req.chatgptPlanType
            call.req.sourceType))

def storeTokens (call : UpsertCall) (info : OAuthTokenInfo) (draw : UpsertDraw) :
    Result OAuthUpsertResult × OAuthStore :=
  match s.matchedAccountId cfg call info with
  | some accountId =>
    match s.account? accountId with
    | none => (.error "matched oauth account is missing", s)
    | some account => s.updateMatched cfg call info draw account
  | none => s.importOauthRefreshTokenWithTokenInfoInner cfg call info draw

/-- The import is answered. -/
def finishUpsert (call : UpsertCall) (answer : RefreshAnswer) (draw : UpsertDraw) :
    Result OAuthUpsertResult × OAuthStore :=
  match answer with
  | .error err => (.error err.display, s)
  | .ok info =>
    match s.storeTokens cfg call info draw with
    | (.error e, s) => (.error e, s)
    | (.ok result, s) =>
      (.ok result, s.dedupeOauthAccountsByIdentityInner info.profile.chatgptAccountUserId
        info.profile.chatgptUserId (call.req.chatgptAccountId.or info.chatgptAccountId))

/-! ## Records that are ready -/

def stableVaultTokenFamilyId (refreshTokenSha256 : String) : String :=
  "vault:" ++ refreshTokenSha256

/-- The account that a record of the vault belongs to: the latest with its refresh token, or
the latest with its account id, which names a workspace. -/
def matchedOauthAccountIdForVaultRecord (record : OAuthRefreshTokenVaultRecord) :
    Option UpstreamAccount :=
  (latest (s.oauthAccounts.filter fun a =>
      (s.credentials a.id).any (·.refreshTokenSha256 = record.refreshTokenSha256))).or
    ((Text.trimmed? record.chatgptAccountId).bind fun target =>
      latest (s.oauthAccounts.filter fun a => a.chatgptAccountId.map Text.trim = some target))

def readySessionProfileFromVaultRecord (record : OAuthRefreshTokenVaultRecord)
    (tokenExpiresAt : DateTime) : SessionProfileRecord where
  credentialKind := .refreshRotatable
  tokenExpiresAt := some tokenExpiresAt
  profile := { OAuthProfile.empty with
    email := record.email
    chatgptPlanType := record.chatgptPlanType }
  sourceType := record.sourceType

def readyTokenExpiresAt (record : OAuthRefreshTokenVaultRecord) (accessTokenEnc : String) :
    Result DateTime :=
  match record.fallbackTokenExpiresAt with
  | some expiresAt => .ok expiresAt
  | none => do
    let cipher ← cfg.requireCredentialCipher
    match cipher.decrypt accessTokenEnc with
    | .error e => .error (truncateErrorMessage e)
    | .ok token =>
      match cfg.parseJwtExpFromAccessToken token with
      | some expiresAt => .ok expiresAt
      | none => .error "ready access token expiry is unknown"

def readyCredential (record : OAuthRefreshTokenVaultRecord) (accessTokenEnc : String)
    (tokenExpiresAt : DateTime) (existing : Option OAuthCredentialRecord) :
    OAuthCredentialRecord where
  accessTokenEnc := accessTokenEnc
  refreshTokenEnc := record.refreshTokenEnc
  fallbackAccessTokenEnc := some accessTokenEnc
  refreshTokenSha256 := record.refreshTokenSha256
  tokenFamilyId :=
    (existing.map (·.tokenFamilyId)).getD (stableVaultTokenFamilyId record.refreshTokenSha256)
  tokenVersion := (existing.map (·.tokenVersion)).getD 0
  tokenExpiresAt := tokenExpiresAt
  fallbackTokenExpiresAt := some tokenExpiresAt
  lastRefreshAt := none
  lastRefreshStatus := .never
  refreshReusedDetected := false
  lastRefreshErrorCode := none
  lastRefreshError := none
  refreshFailureCount := 0
  refreshBackoffUntil := none

def readyAccount (record : OAuthRefreshTokenVaultRecord) (account : UpstreamAccount) :
    UpstreamAccount :=
  { account with
    label := record.label
    mode := record.desiredMode
    baseUrl := record.baseUrl
    bearerToken := oauthManagedBearerSentinel
    chatgptAccountId := record.chatgptAccountId
    enabled := record.desiredEnabled
    priority := record.desiredPriority }

def newReadyAccount (record : OAuthRefreshTokenVaultRecord) (newId : Uuid) (now : DateTime) :
    UpstreamAccount where
  id := newId
  label := record.label
  mode := record.desiredMode
  baseUrl := record.baseUrl
  bearerToken := oauthManagedBearerSentinel
  chatgptAccountId := record.chatgptAccountId
  enabled := record.desiredEnabled
  priority := record.desiredPriority
  createdAt := now

def readyProfile (record : OAuthRefreshTokenVaultRecord) (tokenExpiresAt : DateTime) :
    Option SessionProfileRecord → SessionProfileRecord
  | none => readySessionProfileFromVaultRecord record tokenExpiresAt
  | some existing =>
    { credentialKind := .refreshRotatable
      tokenExpiresAt := some tokenExpiresAt
      profile := { existing.profile with
        email := record.email.or existing.profile.email
        chatgptPlanType := record.chatgptPlanType.or existing.profile.chatgptPlanType }
      sourceType := record.sourceType.or existing.sourceType }

/-- The account, credential and profile that a ready record is stored as. -/
def storeReady (record : OAuthRefreshTokenVaultRecord) (accessTokenEnc : String)
    (tokenExpiresAt : DateTime) (newId : Uuid) (now : DateTime) : UpstreamAccount × OAuthStore :=
  match s.matchedOauthAccountIdForVaultRecord record with
  | some matched =>
    (readyAccount record matched,
      (((s.updateAccount matched.id (readyAccount record)).setProvider matched.id
        .oauthRefreshToken).upsertOauthCredential matched.id
          (readyCredential record accessTokenEnc tokenExpiresAt
            (s.credentials matched.id))).upsertSessionProfile matched.id
              (readyProfile record tokenExpiresAt (s.sessionProfiles matched.id)))
  | none =>
    let account := newReadyAccount record newId now
    (account,
      (((s.insertAccount account).setProvider newId .oauthRefreshToken).upsertOauthCredential newId
        (readyCredential record accessTokenEnc tokenExpiresAt none)).upsertSessionProfile newId
          (readySessionProfileFromVaultRecord record tokenExpiresAt))

def materializeReadyOauthVaultRecordInner (record : OAuthRefreshTokenVaultRecord) (newId : Uuid)
    (now : DateTime) : Result (UpstreamAccount × OAuthStore) :=
  match record.fallbackAccessTokenEnc with
  | none => .error "ready access token is missing"
  | some accessTokenEnc => do
    let tokenExpiresAt ← readyTokenExpiresAt cfg record accessTokenEnc
    if tokenExpiresAt ≤ now + oauthMinValid then
      .error "ready access token is already expired"
    else
      let (account, s) := s.storeReady record accessTokenEnc tokenExpiresAt newId now
      pure (account,
        (s.recordAccountProbeResultInner account.id (record.admissionCheckedAt.getD now)
          .ok).setAccountPoolStateActiveInner account.id now)

end OAuthStore

end CodexPool
