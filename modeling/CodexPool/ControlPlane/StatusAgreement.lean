import CodexPool.ControlPlane.MemorySnapshot

/-!
# The status of an account and the snapshot

Whether an account is enabled is said in its status, which the console shows, and in the snapshot,
which the data planes are sent. Both ask the same function, but not with the same arguments: the
in-memory store passes a later time for the status, the status reads the session profile where the
credential says nothing, and only the snapshot looks at the token itself. The status also says
whether the refresh credential is invalid for good, which the refresh decides in another way.
-/

namespace CodexPool

open Keyed

inductive RefreshCredentialState where
  | healthy
  | transientFailed
  | terminalInvalid
deriving DecidableEq

def hasRefreshCredential (authProvider : UpstreamAuthProvider) : Bool :=
  authProvider = .oauthRefreshToken

def refreshCredentialState (authProvider : UpstreamAuthProvider)
    (lastRefreshStatus : OAuthRefreshStatus) (refreshReusedDetected : Bool)
    (lastRefreshErrorCode : Option String) : Option RefreshCredentialState :=
  if !hasRefreshCredential authProvider then none
  else if refreshReusedDetected || isFatalRefreshErrorCode lastRefreshErrorCode then
    some .terminalInvalid
  else if lastRefreshStatus = .failed then some .transientFailed
  else some .healthy

/-- What a status says of an account apart from its profile and its health. -/
structure OAuthAccountStatusResponse where
  accountId : Uuid
  authProvider : UpstreamAuthProvider
  credentialKind : Option SessionCredentialKind
  hasRefreshCredential : Bool
  hasAccessTokenFallback : Bool
  refreshCredentialState : Option RefreshCredentialState
  chatgptPlanType : Option String
  tokenFamilyId : Option String
  tokenExpiresAt : Option DateTime
  lastRefreshStatus : OAuthRefreshStatus
  refreshReusedDetected : Bool
  lastRefreshErrorCode : Option String
  effectiveEnabled : Bool
  supportedModels : List String
  rateLimits : List OAuthRateLimitSnapshot
  rateLimitsExpiresAt : Option DateTime
  rateLimitsLastErrorCode : Option String
  rateLimitsLastError : Option String
  nextRefreshAt : Option DateTime

namespace AccountRow

variable (row : AccountRow)

/-! ## The status of a row -/

/-- `oauth_effective_enabled`, with the kind and the expiry of the token as arguments. -/
def effectiveEnabledWith (credentialKind : Option SessionCredentialKind)
    (tokenExpiresAt : Option DateTime) (now : DateTime) : Bool :=
  let baseEnabled := match row.authProvider, credentialKind with
    | .oauthRefreshToken, _ =>
      row.enabled && (tokenExpiresAt.any (now + oauthMinValid < ·) || row.fallbackUsable now)
    | _, some .oneTimeAccessToken =>
      row.enabled &&
        (tokenExpiresAt.map fun expiresAt => decide (now + oauthMinValid < expiresAt)).getD true
    | _, _ => row.enabled
  if !baseEnabled then false
  else if row.authProvider = .oauthRefreshToken then
    if row.terminalInvalid && !row.fallbackUsable now then false
    else !hasActiveRateLimitBlock now (row.rateLimit.bind (·.expiresAt))
      (row.rateLimit.bind (·.lastErrorCode)) (row.rateLimit.bind (·.lastErrorMessage))
  else true

/-- The expiry of the credential, or else the one of the session profile. -/
def statusTokenExpiresAt : Option DateTime :=
  row.tokenExpiresAt.or (row.sessionProfile.bind (·.tokenExpiresAt))

/-- The kind that the session profile names, or else the one of the provider and the mode. -/
def statusCredentialKind : Option SessionCredentialKind :=
  (row.sessionProfile.map (·.credentialKind)).or row.credentialKind

/-- The status of a row, with the time that is passed to `oauth_effective_enabled`. -/
def oauthStatusAt (now : DateTime) : OAuthAccountStatusResponse :=
  let lastRefreshStatus := (row.credential.map (·.lastRefreshStatus)).getD .never
  let refreshReusedDetected := (row.credential.map (·.refreshReusedDetected)).getD false
  let lastRefreshErrorCode := row.credential.bind (·.lastRefreshErrorCode)
  { accountId := row.id
    authProvider := row.authProvider
    credentialKind := row.statusCredentialKind
    hasRefreshCredential := hasRefreshCredential row.authProvider
    hasAccessTokenFallback := row.hasAccessTokenFallback
    refreshCredentialState := refreshCredentialState row.authProvider lastRefreshStatus
      refreshReusedDetected lastRefreshErrorCode
    chatgptPlanType := row.sessionProfile.bind (·.chatgptPlanType)
    tokenFamilyId := row.credential.bind (·.tokenFamilyId)
    tokenExpiresAt := row.statusTokenExpiresAt
    lastRefreshStatus := lastRefreshStatus
    refreshReusedDetected := refreshReusedDetected
    lastRefreshErrorCode := lastRefreshErrorCode
    effectiveEnabled :=
      row.effectiveEnabledWith row.statusCredentialKind row.statusTokenExpiresAt now
    supportedModels := row.supportedModels.getD []
    rateLimits := (row.rateLimit.map (·.rateLimits)).getD []
    rateLimitsExpiresAt := row.rateLimit.bind (·.expiresAt)
    rateLimitsLastErrorCode := row.rateLimit.bind (·.lastErrorCode)
    rateLimitsLastError := row.rateLimit.bind (·.lastErrorMessage)
    nextRefreshAt := match row.authProvider with
      | .oauthRefreshToken => row.statusTokenExpiresAt.map (· - oauthRefreshWindow)
      | .legacyBearer => none }

/-! ## When a row is enabled -/

/-- The token is not one that is used up, or it is not used up yet. -/
def TokenLasts (credentialKind : Option SessionCredentialKind) (tokenExpiresAt : Option DateTime)
    (now : DateTime) : Prop :=
  credentialKind = some .oneTimeAccessToken →
    ∀ expiresAt ∈ tokenExpiresAt, now + oauthMinValid < expiresAt

/-- One of the two tokens can be used: the fallback, or the access token while the refresh
credential is not known to be invalid. -/
def HasToken (tokenExpiresAt : Option DateTime) (now : DateTime) : Prop :=
  row.fallbackUsable now = true ∨
    tokenExpiresAt.any (now + oauthMinValid < ·) = true ∧ row.terminalInvalid = false

variable {row} {now : DateTime} {credentialKind : Option SessionCredentialKind}
  {tokenExpiresAt : Option DateTime}

theorem oauthEffectiveEnabled_eq_with :
    row.oauthEffectiveEnabled now =
      row.effectiveEnabledWith row.credentialKind row.tokenExpiresAt now := rfl

theorem effectiveEnabled_oauthStatusAt :
    (row.oauthStatusAt now).effectiveEnabled =
      row.effectiveEnabledWith row.statusCredentialKind row.statusTokenExpiresAt now := rfl

theorem effectiveEnabledWith_of_oauth (hoauth : row.authProvider = .oauthRefreshToken) :
    row.effectiveEnabledWith credentialKind tokenExpiresAt now = true ↔
      row.enabled = true ∧ row.HasToken tokenExpiresAt now ∧ row.hasRateLimitBlock now = false := by
  unfold effectiveEnabledWith HasToken hasRateLimitBlock
  rw [hoauth]
  cases row.enabled <;> cases tokenExpiresAt.any (now + oauthMinValid < ·) <;>
    cases row.fallbackUsable now <;> cases row.terminalInvalid <;> simp

theorem effectiveEnabledWith_of_legacy (hlegacy : row.authProvider = .legacyBearer) :
    row.effectiveEnabledWith credentialKind tokenExpiresAt now = true ↔
      row.enabled = true ∧ TokenLasts credentialKind tokenExpiresAt now := by
  unfold effectiveEnabledWith TokenLasts
  rw [hlegacy]
  cases credentialKind with
  | none => simp
  | some kind =>
      cases kind with
      | refreshRotatable => simp
      | oneTimeAccessToken =>
          cases tokenExpiresAt with
          | none => simp
          | some expiresAt => simp

variable {later : DateTime}

theorem HasToken.earlier (hle : now ≤ later)
    (h : row.HasToken tokenExpiresAt later) : row.HasToken tokenExpiresAt now := by
  have hguard : now + oauthMinValid ≤ later + oauthMinValid := Int.add_le_add_right hle _
  rcases h with hfallback | ⟨hlate, hvalid⟩
  · left
    unfold fallbackUsable hasUsableAccessTokenFallback at hfallback ⊢
    rw [Bool.and_eq_true] at hfallback ⊢
    refine ⟨hfallback.1, ?_⟩
    cases hexpires : row.credential.bind (·.fallbackTokenExpiresAt) with
    | none => rfl
    | some expiresAt =>
        rw [hexpires] at hfallback
        exact decide_eq_true (lt_of_le_of_lt hguard (of_decide_eq_true hfallback.2))
  · right
    refine ⟨?_, hvalid⟩
    cases tokenExpiresAt with
    | none => exact hlate
    | some expiresAt => exact decide_eq_true (lt_of_le_of_lt hguard (of_decide_eq_true hlate))

theorem hasRateLimitBlock_later (hle : now ≤ later)
    (h : row.hasRateLimitBlock now = false) : row.hasRateLimitBlock later = false := by
  rw [Bool.eq_false_iff] at h ⊢
  intro hlater
  apply h
  unfold hasRateLimitBlock hasActiveRateLimitBlock at hlater ⊢
  rw [Bool.and_eq_true] at hlater ⊢
  refine ⟨?_, hlater.2⟩
  cases hexpires : row.rateLimit.bind (·.expiresAt) with
  | none =>
      rw [hexpires] at hlater
      exact hlater.1
  | some expiresAt =>
      rw [hexpires] at hlater
      exact decide_eq_true (lt_of_le_of_lt hle (of_decide_eq_true hlater.1))

theorem HasToken.status (h : row.HasToken row.tokenExpiresAt now) :
    row.HasToken row.statusTokenExpiresAt now := by
  rcases h with hfallback | ⟨hlate, hvalid⟩
  · exact Or.inl hfallback
  · right
    refine ⟨?_, hvalid⟩
    rw [statusTokenExpiresAt]
    cases hexpires : row.tokenExpiresAt with
    | none =>
        rw [hexpires] at hlate
        exact absurd hlate Bool.false_ne_true
    | some expiresAt =>
        rw [hexpires] at hlate
        exact hlate

/-! ## What the snapshot makes of a row -/

variable {cipher : Option (String → Option String)}

theorem snapshotAccount_enabled_of_oauth (hoauth : row.authProvider = .oauthRefreshToken) :
    (row.snapshotAccount now cipher).enabled = true ↔
      row.oauthEffectiveEnabled now = true ∧
        ∃ token, row.decryptAccessToken now cipher = some token := by
  rw [snapshotAccount_of_oauth hoauth]
  cases row.decryptAccessToken now cipher with
  | none => simp [toAccount]
  | some token => simp [toAccount]

theorem snapshotAccount_enabled_of_legacy (hlegacy : row.authProvider = .legacyBearer) :
    (row.snapshotAccount now cipher).enabled = row.oauthEffectiveEnabled now := by
  simp [snapshotAccount, hlegacy, toAccount]

theorem statusTokenExpiresAt_of_token {token : String}
    (h : row.decryptAccessToken now cipher = some token) :
    row.statusTokenExpiresAt = row.tokenExpiresAt := by
  unfold statusTokenExpiresAt tokenExpiresAt
  cases hcredential : row.credential with
  | none => cases cipher <;> simp [decryptAccessToken, hcredential] at h
  | some credential => rfl

/-! ## When the status says what the snapshot does -/

variable (row now cipher)

/-- What the two readings of a row of Postgres depend on: of a bearer token, the expiry of the
session profile, and of a refreshed account, the token itself. -/
structure FollowsSnapshot : Prop where
  lasting : row.authProvider = .legacyBearer → row.enabled = true →
    (TokenLasts row.statusCredentialKind row.statusTokenExpiresAt now ↔
      TokenLasts row.credentialKind row.tokenExpiresAt now)
  readable : row.authProvider = .oauthRefreshToken → row.enabled = true →
    row.HasToken row.statusTokenExpiresAt now → row.hasRateLimitBlock now = false →
    ∃ token, row.decryptAccessToken now cipher = some token

structure FollowsMemorySnapshot (later : DateTime) : Prop where
  lasting : row.authProvider = .legacyBearer → row.enabled = true →
    TokenLasts row.statusCredentialKind row.statusTokenExpiresAt later
  outlasting : row.authProvider = .oauthRefreshToken → row.enabled = true →
    row.HasToken row.tokenExpiresAt now → row.hasRateLimitBlock now = false →
    (∃ token, row.decryptAccessToken now cipher = some token) →
    row.HasToken row.tokenExpiresAt later
  unblocked : row.authProvider = .oauthRefreshToken → row.enabled = true →
    row.HasToken row.statusTokenExpiresAt later → row.hasRateLimitBlock later = false →
    row.hasRateLimitBlock now = false
  readable : row.authProvider = .oauthRefreshToken → row.enabled = true →
    row.HasToken row.statusTokenExpiresAt later → row.hasRateLimitBlock later = false →
    ∃ token, row.decryptAccessToken now cipher = some token

variable {row now cipher}

theorem oauthStatusAt_effectiveEnabled_iff :
    (row.oauthStatusAt now).effectiveEnabled = (row.snapshotAccount now cipher).enabled ↔
      row.FollowsSnapshot now cipher := by
  rw [Bool.eq_iff_iff, effectiveEnabled_oauthStatusAt]
  cases hprovider : row.authProvider with
  | legacyBearer =>
      rw [snapshotAccount_enabled_of_legacy hprovider, oauthEffectiveEnabled_eq_with,
        effectiveEnabledWith_of_legacy hprovider, effectiveEnabledWith_of_legacy hprovider,
        and_congr_right_iff]
      constructor
      · intro h
        exact ⟨fun _ => h, fun hoauth => absurd (hprovider.symm.trans hoauth) (by decide)⟩
      · intro h
        exact h.lasting hprovider
  | oauthRefreshToken =>
      rw [snapshotAccount_enabled_of_oauth hprovider, oauthEffectiveEnabled_eq_with,
        effectiveEnabledWith_of_oauth hprovider, effectiveEnabledWith_of_oauth hprovider]
      constructor
      · intro h
        refine ⟨fun hlegacy => absurd (hprovider.symm.trans hlegacy) (by decide), ?_⟩
        intro _ henabled htoken hblock
        exact (h.1 ⟨henabled, htoken, hblock⟩).2
      · intro h
        constructor
        · rintro ⟨henabled, htoken, hblock⟩
          obtain ⟨token, hdecrypted⟩ := h.readable hprovider henabled htoken hblock
          rw [statusTokenExpiresAt_of_token hdecrypted] at htoken
          exact ⟨⟨henabled, htoken, hblock⟩, token, hdecrypted⟩
        · intro hsent
          exact ⟨hsent.1.1, hsent.1.2.1.status, hsent.1.2.2⟩

theorem oauthStatusAt_later_of_legacy (hlegacy : row.authProvider = .legacyBearer) :
    (row.oauthStatusAt later).effectiveEnabled = row.enabled ↔
      row.FollowsMemorySnapshot now cipher later := by
  rw [Bool.eq_iff_iff, effectiveEnabled_oauthStatusAt]
  rw [effectiveEnabledWith_of_legacy hlegacy, and_iff_left_iff_imp]
  have hother : row.authProvider ≠ .oauthRefreshToken := by
    rw [hlegacy]
    decide
  constructor
  · intro h
    exact ⟨fun _ => h, fun hoauth => absurd hoauth hother, fun hoauth => absurd hoauth hother,
      fun hoauth => absurd hoauth hother⟩
  · intro h
    exact h.lasting hlegacy

theorem oauthStatusAt_later_of_oauth (hle : now ≤ later)
    (hoauth : row.authProvider = .oauthRefreshToken) :
    (row.oauthStatusAt later).effectiveEnabled = (row.snapshotAccount now cipher).enabled ↔
      row.FollowsMemorySnapshot now cipher later := by
  rw [Bool.eq_iff_iff, effectiveEnabled_oauthStatusAt]
  rw [snapshotAccount_enabled_of_oauth hoauth, oauthEffectiveEnabled_eq_with,
    effectiveEnabledWith_of_oauth hoauth, effectiveEnabledWith_of_oauth hoauth]
  constructor
  · intro h
    refine ⟨fun hlegacy => absurd (hoauth.symm.trans hlegacy) (by decide), ?_, ?_, ?_⟩
    · rintro _ henabled htoken hblock ⟨token, hdecrypted⟩
      have hshown := h.2 ⟨⟨henabled, htoken, hblock⟩, token, hdecrypted⟩
      rw [statusTokenExpiresAt_of_token hdecrypted] at hshown
      exact hshown.2.1
    · intro _ henabled htoken hblock
      exact (h.1 ⟨henabled, htoken, hblock⟩).1.2.2
    · intro _ henabled htoken hblock
      exact (h.1 ⟨henabled, htoken, hblock⟩).2
  · intro h
    constructor
    · rintro ⟨henabled, htoken, hblock⟩
      obtain ⟨token, hdecrypted⟩ := h.readable hoauth henabled htoken hblock
      have hnow := h.unblocked hoauth henabled htoken hblock
      rw [statusTokenExpiresAt_of_token hdecrypted] at htoken
      exact ⟨⟨henabled, htoken.earlier hle, hnow⟩, token, hdecrypted⟩
    · rintro ⟨⟨henabled, htoken, hblock⟩, hdecrypted⟩
      have hlater := h.outlasting hoauth henabled htoken hblock hdecrypted
      exact ⟨henabled, hlater.status, hasRateLimitBlock_later hle hblock⟩

/-! ## The refresh credential -/

variable (row now) in
/-- A refresh of the account returns before anything else: the refresh credential is invalid for
good, and the fallback token can be used instead. -/
def RefreshStopped : Prop :=
  row.authProvider = .oauthRefreshToken ∧ row.terminalInvalid = true ∧
    row.fallbackUsable now = true

variable (row) in
/-- The error of the last refresh is a fatal one, whatever the status of that refresh is. -/
def HasFatalError : Prop :=
  row.authProvider = .oauthRefreshToken ∧
    ((row.credential.map (·.refreshReusedDetected)).getD false = true ∨
      isFatalRefreshErrorCode (row.credential.bind (·.lastRefreshErrorCode)) = true)

theorem refreshCredentialState_eq_terminalInvalid :
    (row.oauthStatusAt now).refreshCredentialState = some .terminalInvalid ↔
      row.HasFatalError := by
  change CodexPool.refreshCredentialState _ _ _ _ = _ ↔ _
  unfold CodexPool.refreshCredentialState hasRefreshCredential HasFatalError
  cases row.authProvider with
  | legacyBearer => simp
  | oauthRefreshToken =>
      simp only [decide_true, Bool.not_true, Bool.false_eq_true, if_false, true_and]
      rw [← Bool.or_eq_true]
      split
      · rename_i hfatal
        exact iff_of_true rfl hfatal
      · rename_i hfatal
        apply iff_of_false _ hfatal
        split <;> simp

theorem hasFatalError_of_terminalInvalid (hoauth : row.authProvider = .oauthRefreshToken)
    (h : row.terminalInvalid = true) : row.HasFatalError := by
  unfold terminalInvalid refreshCredentialIsTerminalInvalid at h
  rw [Bool.or_eq_true, Bool.and_eq_true] at h
  exact ⟨hoauth, h.imp_right And.right⟩

variable (row) in
/-- A fatal error stands beside a refresh that has not failed. -/
def HasStaleFatalError : Prop :=
  row.authProvider = .oauthRefreshToken ∧
    ∃ credential ∈ row.credential, credential.refreshReusedDetected = false ∧
      credential.lastRefreshStatus ≠ .failed ∧
      isFatalRefreshErrorCode credential.lastRefreshErrorCode = true

theorem hasStaleFatalError_iff :
    row.HasStaleFatalError ↔ row.HasFatalError ∧ row.terminalInvalid = false := by
  unfold HasStaleFatalError HasFatalError terminalInvalid refreshCredentialIsTerminalInvalid
  cases row.credential with
  | none => simp [isFatalRefreshErrorCode]
  | some credential =>
      simp only [Option.mem_def, Option.some.injEq, exists_eq_left', Option.map_some,
        Option.getD_some, Option.bind_some, Bool.or_eq_false_iff, Bool.and_eq_false_iff,
        decide_eq_false_iff_not]
      cases credential.refreshReusedDetected <;>
        cases isFatalRefreshErrorCode credential.lastRefreshErrorCode <;> simp

/-- The two predicates agree unless a fatal error stands beside a refresh that has not failed. -/
theorem refreshCredentialState_iff_terminalInvalid :
    ((row.oauthStatusAt now).refreshCredentialState = some .terminalInvalid ↔
        row.authProvider = .oauthRefreshToken ∧ row.terminalInvalid = true) ↔
      ¬ row.HasStaleFatalError := by
  rw [refreshCredentialState_eq_terminalInvalid, hasStaleFatalError_iff, not_and,
    Bool.not_eq_false]
  constructor
  · intro h hfatal
    exact (h.1 hfatal).2
  · intro h
    exact ⟨fun hfatal => ⟨hfatal.1, h hfatal⟩,
      fun hterminal => hasFatalError_of_terminalInvalid hterminal.1 hterminal.2⟩

theorem refreshCredentialState_iff_refreshStopped {shown : DateTime} :
    ((row.oauthStatusAt shown).refreshCredentialState = some .terminalInvalid ↔
        row.RefreshStopped now) ↔
      ¬ row.HasStaleFatalError ∧
        (row.authProvider = .oauthRefreshToken → row.terminalInvalid = true →
          row.fallbackUsable now = true) := by
  rw [refreshCredentialState_eq_terminalInvalid, hasStaleFatalError_iff, not_and,
    Bool.not_eq_false]
  constructor
  · intro h
    refine ⟨fun hfatal => (h.1 hfatal).2.1, ?_⟩
    intro hoauth hterminal
    exact (h.1 (hasFatalError_of_terminalInvalid hoauth hterminal)).2.2
  · intro h
    constructor
    · intro hfatal
      exact ⟨hfatal.1, h.1 hfatal, h.2 hfatal.1 (h.1 hfatal)⟩
    · intro hstopped
      exact hasFatalError_of_terminalInvalid hstopped.1 hstopped.2.1

end AccountRow

/-! ## The stores -/

/-- The flag of an account in a snapshot. -/
def flagIn (accounts : List UpstreamAccount) (accountId : Uuid) : Option Bool :=
  (lookupBy UpstreamAccount.id accounts accountId).map (·.enabled)

namespace AccountMaps

variable (cfg : AccountMapsConfig) (w : AccountMaps) (now : DateTime) (accountId : Uuid)

/-- `now_guard`: the time of the status is later than the clock. -/
def oauthStatusFrom (account : UpstreamAccount) : OAuthAccountStatusResponse :=
  (w.row account).oauthStatusAt (now + oauthMinValid)

def oauthAccountStatusInner : Result OAuthAccountStatusResponse :=
  match w.oauth.account? accountId with
  | none => .error "account not found"
  | some account => .ok (w.oauthStatusFrom now account)

/-- The status of an account that the snapshot lists has the flag that is sent. -/
def StatusMatchesSnapshot : Prop :=
  ∀ status, w.oauthAccountStatusInner now accountId = .ok status →
    ∀ flag, flagIn (w.snapshotAccounts cfg now) accountId = some flag →
      status.effectiveEnabled = flag

variable {cfg w now accountId}

variable {account : UpstreamAccount}

theorem account?_of_pooled
    (h : lookupBy UpstreamAccount.id (w.pooledAccounts now) accountId = some account) :
    w.oauth.account? accountId = some account := by
  unfold pooledAccounts listUpstreamAccountsInner purgeExpiredOneTimeAccountsInner
    removeAccounts at h
  rw [lookupBy_filter_key UpstreamAccount.id fun id =>
    decide (((w.accountPoolStateRecordInner id now).oauth.healthState id).poolState = .active)] at h
  split at h
  · rw [lookupBy_filter_key UpstreamAccount.id fun id => !w.isExpiredOneTime now id] at h
    split at h
    · exact h
    · exact absurd h (by simp)
  · exact absurd h (by simp)

theorem snapshotAccount_enabled_of_legacy
    (hlegacy : w.accountAuthProvider account.id = .legacyBearer) :
    (w.snapshotAccount cfg now account).enabled = account.enabled := by
  rw [snapshotAccount, if_pos (by simp [hlegacy])]

theorem oauthStatusFrom_iff :
    (w.oauthStatusFrom now account).effectiveEnabled =
        (w.snapshotAccount cfg now account).enabled ↔
      (w.row account).FollowsMemorySnapshot now cfg.oauth.decrypter (now + oauthMinValid) := by
  unfold oauthStatusFrom
  cases hprovider : w.accountAuthProvider account.id with
  | legacyBearer =>
      rw [snapshotAccount_enabled_of_legacy hprovider]
      have hrow : (w.row account).authProvider = .legacyBearer := hprovider
      exact AccountRow.oauthStatusAt_later_of_legacy hrow
  | oauthRefreshToken =>
      rw [snapshotAccount_eq hprovider]
      have hmin : (0 : Int) ≤ oauthMinValid := by decide
      exact AccountRow.oauthStatusAt_later_of_oauth (Int.le_add_of_nonneg_right hmin) hprovider

theorem statusMatchesSnapshot_iff :
    w.StatusMatchesSnapshot cfg now accountId ↔
      ∀ account, lookupBy UpstreamAccount.id (w.pooledAccounts now) accountId = some account →
        (w.row account).FollowsMemorySnapshot now cfg.oauth.decrypter (now + oauthMinValid) := by
  have hflag : flagIn (w.snapshotAccounts cfg now) accountId =
      (lookupBy UpstreamAccount.id (w.pooledAccounts now) accountId).map fun account =>
        (w.snapshotAccount cfg now account).enabled := by
    rw [flagIn, snapshotAccounts, lookupBy_map snapshotAccount_id, Option.map_map]
    rfl
  unfold StatusMatchesSnapshot
  rw [hflag]
  constructor
  · intro h account hpooled
    rw [← oauthStatusFrom_iff]
    apply h
    · rw [oauthAccountStatusInner, account?_of_pooled hpooled]
    · rw [hpooled]
      rfl
  · intro h status hstatus flag hsent
    obtain ⟨account, hpooled, rfl⟩ := Option.map_eq_some_iff.1 hsent
    rw [oauthAccountStatusInner, account?_of_pooled hpooled] at hstatus
    cases Except.ok.inj hstatus
    exact oauthStatusFrom_iff.2 (h account hpooled)

/-- The refresh of the in-memory store stops where the row says so. -/
theorem startRefresh_of_refreshStopped (force : Bool)
    (haccount : w.oauth.account? accountId = some account)
    (hstopped : (w.row account).RefreshStopped now) :
    w.oauth.startRefresh cfg.oauth accountId force now = .ok none := by
  have hid : account.id = accountId := key_of_lookupBy haccount
  obtain ⟨hprovider, hterminal, hfallback⟩ := hstopped
  obtain ⟨row, hrow, -⟩ := AccountRow.exists_fallback hfallback
  change w.accountAuthProvider account.id = .oauthRefreshToken at hprovider
  change (w.oauth.credentials account.id).map (·.row) = some row at hrow
  obtain ⟨credential, hcredential, -⟩ := Option.map_eq_some_iff.1 hrow
  have hcovered : credential.coveredByFallback now = true := by
    unfold AccountRow.terminalInvalid at hterminal
    unfold AccountRow.fallbackUsable AccountRow.hasAccessTokenFallback at hfallback
    simp only [AccountMaps.row, hcredential, Option.map_some, Option.bind_some,
      Option.getD_some] at hterminal hfallback
    unfold OAuthCredentialRecord.coveredByFallback
    rw [Bool.and_eq_true]
    exact ⟨hterminal, hfallback⟩
  have hoauth : w.oauth.isOauth accountId = true := by
    unfold accountAuthProvider at hprovider
    rw [hid] at hprovider
    unfold OAuthStore.isOauth
    cases hstored : w.oauth.providers accountId with
    | none =>
        rw [hstored] at hprovider
        exact absurd hprovider (by decide)
    | some provider =>
        rw [hstored] at hprovider
        exact decide_eq_true (congrArg some hprovider)
  rw [hid] at hcredential
  simp [OAuthStore.startRefresh, haccount, hoauth, hcredential, hcovered]

end AccountMaps

namespace AccountTable

variable (cfg : StoreConfig) (t : AccountTable) (now : DateTime) (accountId : Uuid)

def fetchOauthAccountStatus : Result OAuthAccountStatusResponse :=
  match t.find accountId with
  | none => .error "account not found"
  | some row => .ok (row.oauthStatusAt now)

def StatusMatchesSnapshot : Prop :=
  ∀ status, t.fetchOauthAccountStatus now accountId = .ok status →
    ∀ flag, flagIn (t.loadSnapshotAccountsInner cfg now) accountId = some flag →
      status.effectiveEnabled = flag

variable {cfg t now accountId}

theorem find_of_active {row : AccountRow}
    (h : lookupBy (·.id) t.activeRows accountId = some row) : t.find accountId = some row := by
  rw [lookupBy_activeRows] at h
  exact (Option.filter_eq_some_iff.1 h).1

theorem statusMatchesSnapshot_iff :
    t.StatusMatchesSnapshot cfg now accountId ↔
      ∀ row, lookupBy (·.id) t.activeRows accountId = some row →
        row.FollowsSnapshot now cfg.credentialCipher := by
  have hflag : flagIn (t.loadSnapshotAccountsInner cfg now) accountId =
      (lookupBy (·.id) t.activeRows accountId).map fun row =>
        (row.snapshotAccount now cfg.credentialCipher).enabled := by
    rw [flagIn, loadSnapshotAccountsInner,
      lookupBy_map fun row => AccountRow.snapshotAccount_id now row _, Option.map_map]
    rfl
  unfold StatusMatchesSnapshot
  rw [hflag]
  constructor
  · intro h row hactive
    rw [← AccountRow.oauthStatusAt_effectiveEnabled_iff]
    apply h
    · rw [fetchOauthAccountStatus, find_of_active hactive]
    · rw [hactive]
      rfl
  · intro h status hstatus flag hsent
    obtain ⟨row, hactive, rfl⟩ := Option.map_eq_some_iff.1 hsent
    rw [fetchOauthAccountStatus, find_of_active hactive] at hstatus
    cases Except.ok.inj hstatus
    exact AccountRow.oauthStatusAt_effectiveEnabled_iff.2 (h row hactive)

end AccountTable

/-- The status of an account has the flag of the snapshot exactly when, in memory, neither its
token nor its block ends within the next minute, and in both stores the token that is sent can be
read and the session profile says of a bearer token what the snapshot takes it for. The refresh
credential is reported as invalid when the refresh takes it for that, unless a fatal error stands
beside a refresh that has not failed; the refresh is stopped then where a fallback can be used. -/
theorem status_agrees_iff (cfg : AccountMapsConfig) (w : AccountMaps) (storeConfig : StoreConfig)
    (t : AccountTable) (now : DateTime) (accountId : Uuid) :
    (w.StatusMatchesSnapshot cfg now accountId ↔
        ∀ account, lookupBy UpstreamAccount.id (w.pooledAccounts now) accountId = some account →
          (w.row account).FollowsMemorySnapshot now cfg.oauth.decrypter (now + oauthMinValid)) ∧
      (t.StatusMatchesSnapshot storeConfig now accountId ↔
        ∀ row, lookupBy (·.id) t.activeRows accountId = some row →
          row.FollowsSnapshot now storeConfig.credentialCipher) ∧
      ∀ (row : AccountRow) (shown : DateTime),
        (((row.oauthStatusAt shown).refreshCredentialState = some .terminalInvalid ↔
              row.authProvider = .oauthRefreshToken ∧ row.terminalInvalid = true) ↔
            ¬ row.HasStaleFatalError) ∧
          (((row.oauthStatusAt shown).refreshCredentialState = some .terminalInvalid ↔
              row.RefreshStopped now) ↔
            ¬ row.HasStaleFatalError ∧
              (row.authProvider = .oauthRefreshToken → row.terminalInvalid = true →
                row.fallbackUsable now = true)) :=
  ⟨AccountMaps.statusMatchesSnapshot_iff, AccountTable.statusMatchesSnapshot_iff,
    fun _ _ => ⟨AccountRow.refreshCredentialState_iff_terminalInvalid,
      AccountRow.refreshCredentialState_iff_refreshStopped⟩⟩

namespace AccountMaps

/-- An account whose access token expires in a minute and a half. -/
def soonExpiringMaps : AccountMaps := new.withOauth { new.oauth with
  accounts := [workspaceAccount "a" "workspace" 0]
  providers := fun _ => some .oauthRefreshToken
  credentials := fun _ => some (plainCredential "refresh" (seconds 90)) }

/-- It is sent as enabled, and its status says that it is not. -/
theorem soonExpiring_status_differs :
    ¬ soonExpiringMaps.StatusMatchesSnapshot sampleMapsConfig 0 ⟨"a"⟩ := by
  intro h
  have hflag : flagIn (soonExpiringMaps.snapshotAccounts sampleMapsConfig 0) ⟨"a"⟩ = some true := by
    decide +kernel
  have hstatus : soonExpiringMaps.oauthAccountStatusInner 0 ⟨"a"⟩ =
      .ok (soonExpiringMaps.oauthStatusFrom 0 (workspaceAccount "a" "workspace" 0)) := rfl
  have hdisabled : (soonExpiringMaps.oauthStatusFrom 0
      (workspaceAccount "a" "workspace" 0)).effectiveEnabled = false := by
    decide +kernel
  exact Bool.false_ne_true (hdisabled.symm.trans (h _ hstatus true hflag))

end AccountMaps

end CodexPool
