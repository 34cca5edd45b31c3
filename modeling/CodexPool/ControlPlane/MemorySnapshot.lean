import CodexPool.ControlPlane.AccountMaps
import CodexPool.ControlPlane.Loaders

/-!
# The accounts in a snapshot of the in-memory store

What the in-memory store sends of its accounts is what the Postgres store makes of the rows that
the maps stand for, as far as accounts are concerned that the control plane refreshes. So the two
stores choose the same tokens.
-/

namespace CodexPool

/-- The columns of a credential that a snapshot reads. -/
def OAuthCredentialRecord.row (credential : OAuthCredentialRecord) : CredentialRow where
  accessTokenEnc := credential.accessTokenEnc
  fallbackAccessTokenEnc := credential.fallbackAccessTokenEnc
  tokenExpiresAt := credential.tokenExpiresAt
  fallbackTokenExpiresAt := credential.fallbackTokenExpiresAt
  lastRefreshStatus := credential.lastRefreshStatus
  refreshReusedDetected := credential.refreshReusedDetected
  lastRefreshErrorCode := credential.lastRefreshErrorCode
  tokenFamilyId := some credential.tokenFamilyId

def OAuthRateLimitCacheRecord.row (cache : OAuthRateLimitCacheRecord) : RateLimitRow where
  rateLimits := cache.rateLimits
  expiresAt := cache.expiresAt
  lastErrorCode := cache.lastErrorCode
  lastErrorMessage := cache.lastError

def SessionProfileRecord.row (record : SessionProfileRecord) : SessionProfileRow where
  credentialKind := record.credentialKind
  tokenExpiresAt := record.tokenExpiresAt
  chatgptPlanType := record.profile.chatgptPlanType

/-- Decryption, as far as the loaders are concerned. -/
def OAuthConfig.decrypter (cfg : OAuthConfig) : Option (String → Option String) :=
  cfg.credentialCipher.map fun cipher enc => (cipher.decrypt enc).toOption

namespace AccountMaps

variable (cfg : AccountMapsConfig) (w : AccountMaps) (now : DateTime)

/-- The row that the maps stand for. -/
def row (account : UpstreamAccount) : AccountRow where
  id := account.id
  label := account.label
  mode := account.mode
  baseUrl := account.baseUrl
  bearerToken := account.bearerToken
  chatgptAccountId := account.chatgptAccountId
  authProvider := w.accountAuthProvider account.id
  enabled := account.enabled
  poolState := (w.oauth.healthState account.id).poolState
  priority := account.priority
  createdAt := account.createdAt
  credential := (w.oauth.credentials account.id).map (·.row)
  rateLimit := (w.rateLimitCaches account.id).map (·.row)
  sessionProfile := (w.oauth.sessionProfiles account.id).map (·.row)
  supportedModels := w.modelSupport account.id

def listUpstreamAccountsInner : List UpstreamAccount :=
  (w.purgeExpiredOneTimeAccountsInner now).oauth.accounts

/-- The accounts in the pool. A quarantine that is over does not keep an account out. -/
def pooledAccounts : List UpstreamAccount :=
  (w.listUpstreamAccountsInner now).filter fun account =>
    ((w.accountPoolStateRecordInner account.id now).oauth.healthState account.id).poolState =
      .active

def disabledAccount (account : UpstreamAccount) : UpstreamAccount :=
  { account with bearerToken := "", enabled := false }

/-- The loop body of `snapshot_inner`. The kind of the credential, which it passes on, is not read
for accounts that the control plane refreshes. -/
def snapshotAccount (account : UpstreamAccount) : UpstreamAccount :=
  if w.accountAuthProvider account.id ≠ .oauthRefreshToken then account
  else match w.oauth.credentials account.id with
    | none => disabledAccount account
    | some _ =>
      let row := w.row account
      match row.decryptAccessToken now cfg.oauth.decrypter with
      | some accessToken =>
        { account with bearerToken := accessToken, enabled := row.oauthEffectiveEnabled now }
      | none => disabledAccount account

def snapshotAccounts : List UpstreamAccount :=
  (w.pooledAccounts now).map (w.snapshotAccount cfg now)

variable {cfg w now}

@[simp] theorem snapshotAccount_id (account : UpstreamAccount) :
    (w.snapshotAccount cfg now account).id = account.id := by
  unfold snapshotAccount
  split
  · rfl
  · split
    · rfl
    · dsimp only
      split
      · rfl
      · rfl

/-- Both stores make the same of an account that the control plane refreshes. -/
theorem snapshotAccount_eq {account : UpstreamAccount}
    (hoauth : w.accountAuthProvider account.id = .oauthRefreshToken) :
    w.snapshotAccount cfg now account =
      (w.row account).snapshotAccount now cfg.oauth.decrypter := by
  rw [AccountRow.snapshotAccount_of_oauth hoauth, snapshotAccount, if_neg (not_not.2 hoauth)]
  cases hstored : w.oauth.credentials account.id with
  | none =>
      have hnone : (w.row account).credential = none := by
        rw [row, hstored]
        rfl
      have htoken : (w.row account).decryptAccessToken now cfg.oauth.decrypter = none := by
        unfold AccountRow.decryptAccessToken
        rw [hnone]
        cases cfg.oauth.decrypter with
        | none => rfl
        | some decrypt => simp
      rw [htoken]
      rfl
  | some credential =>
      dsimp only
      cases (w.row account).decryptAccessToken now cfg.oauth.decrypter with
      | none => rfl
      | some token => rfl

variable (cfg w now) in
/-- An account that was sent, when it is an enabled one that the control plane refreshes, has a
live token. -/
def CarriesLiveToken (account : UpstreamAccount) : Prop :=
  w.accountAuthProvider account.id = .oauthRefreshToken → account.enabled = true →
    HasLiveToken now cfg.oauth.decrypter ((w.oauth.credentials account.id).map (·.row))
      account.bearerToken

variable (cfg w now) in
def PrefersLiveTokens : Prop :=
  ∀ account ∈ w.pooledAccounts now, w.accountAuthProvider account.id = .oauthRefreshToken →
    ¬ (w.row account).PrefersExpiredToken now cfg.oauth.decrypter

theorem carriesLiveToken_iff {account : UpstreamAccount} :
    w.CarriesLiveToken cfg now (w.snapshotAccount cfg now account) ↔
      (w.accountAuthProvider account.id = .oauthRefreshToken →
        ¬ (w.row account).PrefersExpiredToken now cfg.oauth.decrypter) := by
  unfold CarriesLiveToken
  rw [snapshotAccount_id]
  apply forall_congr'
  intro hoauth
  rw [snapshotAccount_eq hoauth]
  exact AccountRow.snapshotAccount_live_iff hoauth

theorem snapshotAccounts_carryLiveTokens_iff :
    (∀ account ∈ w.snapshotAccounts cfg now, w.CarriesLiveToken cfg now account) ↔
      w.PrefersLiveTokens cfg now := by
  unfold snapshotAccounts PrefersLiveTokens
  rw [List.forall_mem_map]
  apply forall₂_congr
  exact fun account _ => carriesLiveToken_iff

end AccountMaps

/-- Accounts that are sent as enabled have live tokens, whichever store they are in and however
they are sent, exactly when an expired access token is not preferred for any of them. -/
theorem live_tokens_iff (cfg : AccountMapsConfig) (w : AccountMaps) (storeConfig : StoreConfig)
    (t : AccountTable) (now : DateTime) :
    ((∀ account ∈ w.snapshotAccounts cfg now, w.CarriesLiveToken cfg now account) ↔
        w.PrefersLiveTokens cfg now) ∧
      ((∀ account ∈ t.loadSnapshotAccountsInner storeConfig now,
          t.CarriesLiveToken storeConfig now account) ↔
        t.PrefersLiveTokens storeConfig now) ∧
      ((∀ id, ∀ account ∈ t.loadSnapshotAccountById storeConfig now id,
          t.CarriesLiveToken storeConfig now account) ↔
        t.PrefersLiveTokens storeConfig now) :=
  ⟨AccountMaps.snapshotAccounts_carryLiveTokens_iff, AccountTable.snapshot_carriesLiveToken_iff,
    AccountTable.event_carriesLiveToken_iff⟩

namespace AccountMaps

/-- An account whose access token has expired, which was not refreshed because the upstream could
not be reached, and which has a fallback token. -/
def expiredAccountMaps : AccountMaps := new.withOauth { new.oauth with
  accounts := [workspaceAccount "a" "workspace" 0]
  providers := fun _ => some .oauthRefreshToken
  credentials := fun _ => some { plainCredential "refresh" 5 with
    fallbackAccessTokenEnc := some "fallback"
    lastRefreshStatus := .failed
    lastRefreshErrorCode := some "upstream_unavailable" } }

/-- It is sent as enabled, with the access token. -/
theorem expired_access_token_is_sent :
    ¬ ∀ account ∈ expiredAccountMaps.snapshotAccounts sampleMapsConfig 10,
      expiredAccountMaps.CarriesLiveToken sampleMapsConfig 10 account := by
  intro h
  have hmem : { workspaceAccount "a" "workspace" 0 with bearerToken := "access" } ∈
      expiredAccountMaps.snapshotAccounts sampleMapsConfig 10 := by decide +kernel
  rcases h _ hmem rfl rfl with ⟨stored, hstored, hchoice⟩
  cases Option.some.inj hstored
  rcases hchoice with ⟨_, hbefore⟩ | ⟨enc, henc, htoken, _⟩
  · revert hbefore
    decide
  · cases Option.some.inj henc
    revert htoken
    decide +kernel

end AccountMaps

end CodexPool
