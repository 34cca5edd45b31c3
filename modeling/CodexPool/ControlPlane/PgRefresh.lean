import CodexPool.ControlPlane.OAuthStore

/-!
# OAuth refreshes in the database

The refresh of an account in the database: the row of the account is read with a query that
names its columns, the slot of the refresh is claimed, the upstream is asked and the outcome is
stored. The query does not name all the columns that are read from its row.
-/

namespace CodexPool

/-! ## Rows -/

/-- A row of `upstream_accounts`, as far as OAuth accounts go. -/
structure PgAccountRow where
  id : Uuid
  baseUrl : String
  chatgptAccountId : Option String
  authProvider : String
  enabled : Bool
  poolState : String
  createdAt : DateTime
deriving DecidableEq

/-- A row of `upstream_account_oauth_credentials`. -/
structure PgCredentialRow where
  accessTokenEnc : String
  refreshTokenEnc : String
  fallbackAccessTokenEnc : Option String
  refreshTokenSha256 : String
  tokenFamilyId : Option String
  tokenVersion : Int
  tokenExpiresAt : DateTime
  fallbackTokenExpiresAt : Option DateTime
  lastRefreshAt : Option DateTime
  lastRefreshStatus : String
  lastRefreshErrorCode : Option String
  lastRefreshError : Option String
  refreshFailureCount : Int
  refreshBackoffUntil : Option DateTime
  refreshReusedDetected : Bool
  refreshInflightUntil : Option DateTime
  nextRefreshAt : Option DateTime
  updatedAt : DateTime
deriving DecidableEq

structure PgOAuthDb where
  accounts : List PgAccountRow
  credentials : Uuid → Option PgCredentialRow
  sessionProfiles : Uuid → Option SessionProfileRecord

inductive RefreshColumn where
  | id
  | enabled
  | baseUrl
  | authProvider
  | accessTokenEnc
  | refreshTokenEnc
  | fallbackAccessTokenEnc
  | tokenExpiresAt
  | fallbackTokenExpiresAt
  | lastRefreshAt
  | lastRefreshStatus
  | refreshReusedDetected
  | lastRefreshErrorCode
  | lastRefreshError
  | refreshFailureCount
  | refreshBackoffUntil
  | refreshInflightUntil
  | nextRefreshAt
deriving DecidableEq

def RefreshColumn.name : RefreshColumn → String
  | id => "id"
  | enabled => "enabled"
  | baseUrl => "base_url"
  | authProvider => "auth_provider"
  | accessTokenEnc => "access_token_enc"
  | refreshTokenEnc => "refresh_token_enc"
  | fallbackAccessTokenEnc => "fallback_access_token_enc"
  | tokenExpiresAt => "token_expires_at"
  | fallbackTokenExpiresAt => "fallback_token_expires_at"
  | lastRefreshAt => "last_refresh_at"
  | lastRefreshStatus => "last_refresh_status"
  | refreshReusedDetected => "refresh_reused_detected"
  | lastRefreshErrorCode => "last_refresh_error_code"
  | lastRefreshError => "last_refresh_error"
  | refreshFailureCount => "refresh_failure_count"
  | refreshBackoffUntil => "refresh_backoff_until"
  | refreshInflightUntil => "refresh_inflight_until"
  | nextRefreshAt => "next_refresh_at"

/-- A value that is read from a row; it may be `NULL`. -/
inductive SqlValue where
  | uuid (value : Option Uuid)
  | text (value : Option String)
  | bool (value : Option Bool)
  | int (value : Option Int)
  | timestamp (value : Option DateTime)

/-- The columns of an account, left-joined with its credential. -/
def RefreshColumn.value (account : PgAccountRow) (credential : Option PgCredentialRow) :
    RefreshColumn → SqlValue
  | id => .uuid (some account.id)
  | enabled => .bool (some account.enabled)
  | baseUrl => .text (some account.baseUrl)
  | authProvider => .text (some account.authProvider)
  | accessTokenEnc => .text (credential.map (·.accessTokenEnc))
  | refreshTokenEnc => .text (credential.map (·.refreshTokenEnc))
  | fallbackAccessTokenEnc => .text (credential.bind (·.fallbackAccessTokenEnc))
  | tokenExpiresAt => .timestamp (credential.map (·.tokenExpiresAt))
  | fallbackTokenExpiresAt => .timestamp (credential.bind (·.fallbackTokenExpiresAt))
  | lastRefreshAt => .timestamp (credential.bind (·.lastRefreshAt))
  | lastRefreshStatus => .text (credential.map (·.lastRefreshStatus))
  | refreshReusedDetected => .bool (credential.map (·.refreshReusedDetected))
  | lastRefreshErrorCode => .text (credential.bind (·.lastRefreshErrorCode))
  | lastRefreshError => .text (credential.bind (·.lastRefreshError))
  | refreshFailureCount => .int (credential.map (·.refreshFailureCount))
  | refreshBackoffUntil => .timestamp (credential.bind (·.refreshBackoffUntil))
  | refreshInflightUntil => .timestamp (credential.bind (·.refreshInflightUntil))
  | nextRefreshAt => .timestamp (credential.bind (·.nextRefreshAt))

abbrev SelectedRow := List (RefreshColumn × SqlValue)

namespace SelectedRow

def tryGet (row : SelectedRow) (column : RefreshColumn) : Result SqlValue :=
  match row.find? (·.1 = column) with
  | none => .error ("no column found for name: " ++ column.name)
  | some (_, value) => .ok value

def tryGetText (row : SelectedRow) (column : RefreshColumn) : Result (Option String) := do
  match ← row.tryGet column with
  | .text value => pure value
  | _ => .error ("error occurred while decoding column " ++ column.name)

def tryGetBool (row : SelectedRow) (column : RefreshColumn) : Result (Option Bool) := do
  match ← row.tryGet column with
  | .bool value => pure value
  | _ => .error ("error occurred while decoding column " ++ column.name)

def tryGetTimestamp (row : SelectedRow) (column : RefreshColumn) : Result (Option DateTime) := do
  match ← row.tryGet column with
  | .timestamp value => pure value
  | _ => .error ("error occurred while decoding column " ++ column.name)

/-- Reads a text that may not be `NULL`. -/
def tryGetString (row : SelectedRow) (column : RefreshColumn) : Result String := do
  match ← row.tryGetText column with
  | some value => pure value
  | none => .error ("error occurred while decoding column " ++ column.name)

end SelectedRow

/-- The columns that the query of a refresh names. -/
def refreshSelectList : List RefreshColumn :=
  [.id, .enabled, .baseUrl, .authProvider, .accessTokenEnc, .refreshTokenEnc,
    .fallbackAccessTokenEnc, .tokenExpiresAt, .fallbackTokenExpiresAt, .lastRefreshAt,
    .lastRefreshStatus, .lastRefreshError, .refreshFailureCount, .refreshBackoffUntil,
    .refreshInflightUntil, .nextRefreshAt]

def parseUpstreamAuthProvider (raw : String) : Result UpstreamAuthProvider :=
  if raw = "legacy_bearer" then .ok .legacyBearer
  else if raw = "oauth_refresh_token" then .ok .oauthRefreshToken
  else .error ("unsupported upstream auth provider in postgres: " ++ raw)

def parseOauthRefreshStatus (raw : String) : Result OAuthRefreshStatus :=
  if raw = "never" then .ok .never
  else if raw = "ok" then .ok .ok
  else if raw = "failed" then .ok .failed
  else .error ("unsupported oauth refresh status in postgres: " ++ raw)

def oauthRefreshInflightTtl : Int := seconds 90

/-- The bytes of the id spread refreshes over two minutes. -/
structure RefreshSchedule where
  jitter : Uuid → Int
  jitter_nonneg : ∀ id, 0 ≤ jitter id

namespace PgOAuthDb

variable (cfg : OAuthConfig) (schedule : RefreshSchedule) (db : PgOAuthDb)

def account? (accountId : Uuid) : Option PgAccountRow :=
  Keyed.lookupBy PgAccountRow.id db.accounts accountId

def setCredential (accountId : Uuid) (f : PgCredentialRow → PgCredentialRow) : PgOAuthDb :=
  { db with
    credentials := Function.update db.credentials accountId ((db.credentials accountId).map f) }

/-! ## Reading -/

def selectRefreshRow (columns : List RefreshColumn) (account : PgAccountRow) : SelectedRow :=
  columns.map fun column => (column, column.value account (db.credentials account.id))

/-- What a refresh needs of its row once it goes ahead. -/
structure PgRefreshRow where
  refreshTokenEnc : Option String
  baseUrl : String

/-- Reads the row of a refresh: it goes ahead, or returns the status of the account. -/
def readRefresh (accountId : Uuid) (force : Bool) (now : DateTime) :
    Result (Option PgRefreshRow) :=
  match db.account? accountId with
  | none => .error "account not found"
  | some account => do
    let row := db.selectRefreshRow refreshSelectList account
    let authProvider ← parseUpstreamAuthProvider (← row.tryGetString .authProvider)
    if authProvider ≠ .oauthRefreshToken then pure none
    else
      match ← row.tryGetTimestamp .tokenExpiresAt with
      | none => .error "oauth credential not found"
      | some tokenExpiresAt => do
        let refreshBackoffUntil ← row.tryGetTimestamp .refreshBackoffUntil
        let refreshInflightUntil ← row.tryGetTimestamp .refreshInflightUntil
        let nextRefreshAt ← row.tryGetTimestamp .nextRefreshAt
        let fallbackAccessTokenEnc ← row.tryGetText .fallbackAccessTokenEnc
        let fallbackTokenExpiresAt ← row.tryGetTimestamp .fallbackTokenExpiresAt
        let lastRefreshStatus ←
          parseOauthRefreshStatus ((← row.tryGetText .lastRefreshStatus).getD "never")
        let refreshReusedDetected ← row.tryGetBool .refreshReusedDetected
        let lastRefreshErrorCode ← row.tryGetText .lastRefreshErrorCode
        if refreshCredentialIsTerminalInvalid lastRefreshStatus
              (refreshReusedDetected.getD false) lastRefreshErrorCode &&
            hasUsableAccessTokenFallback now fallbackAccessTokenEnc.isSome
              fallbackTokenExpiresAt then pure none
        else
          let shouldRefresh := force ||
            match nextRefreshAt with
            | some refreshAt => decide (refreshAt ≤ now)
            | none => decide (tokenExpiresAt ≤ now + oauthRefreshWindow)
          if !shouldRefresh || refreshBackoffUntil.any (now < ·) ||
              refreshInflightUntil.any (now < ·) then pure none
          else do
            let refreshTokenEnc ← row.tryGetText .refreshTokenEnc
            let baseUrl ← row.tryGetString .baseUrl
            pure (some { refreshTokenEnc, baseUrl })

/-- The slot of the refresh, when no other refresh holds it. -/
def tryClaimOauthRefreshSlot (accountId : Uuid) (now : DateTime) : Option PgOAuthDb :=
  match db.credentials accountId with
  | none => none
  | some credential =>
    if credential.refreshInflightUntil.any (now < ·) then none
    else some (db.setCredential accountId fun c =>
      { c with refreshInflightUntil := some (now + oauthRefreshInflightTtl), updatedAt := now })

/-! ## Storing the outcome -/

def scheduleNextOauthRefresh (expiresAt : DateTime) (accountId : Uuid) (now : DateTime) :
    DateTime :=
  max (expiresAt - seconds 180 - schedule.jitter accountId) (now + seconds 30)

def persistOauthRefreshSuccess (accountId : Uuid) (info : OAuthTokenInfo) (now : DateTime) :
    Result PgOAuthDb := do
  let cipher ← cfg.requireCredentialCipher
  let accessTokenEnc ← cipher.encrypt info.accessToken
  let refreshTokenEnc ← cipher.encrypt info.refreshToken
  let db := db.setCredential accountId fun c => { c with
    accessTokenEnc
    refreshTokenEnc
    refreshTokenSha256 := cfg.refreshTokenSha256 info.refreshToken
    tokenExpiresAt := info.expiresAt
    lastRefreshAt := some now
    lastRefreshStatus := "ok"
    lastRefreshErrorCode := none
    lastRefreshError := none
    refreshFailureCount := 0
    refreshBackoffUntil := none
    refreshReusedDetected := false
    refreshInflightUntil := none
    nextRefreshAt := some (scheduleNextOauthRefresh schedule info.expiresAt accountId now)
    tokenVersion := max c.tokenVersion 0 + 1
    updatedAt := now }
  pure { db with
    accounts := db.accounts.map fun a =>
      if a.id = accountId then
        { a with chatgptAccountId := info.chatgptAccountId.or a.chatgptAccountId }
      else a
    sessionProfiles := Function.update db.sessionProfiles accountId
      (some (.fromOauthTokenInfo info .refreshRotatable info.profile.chatgptPlanType none)) }

def refreshBackoff (failures : Int) : Int :=
  if failures = 0 then seconds 0
  else if failures = 1 then seconds 30
  else if failures = 2 then seconds 60
  else if failures = 3 then seconds 120
  else seconds 300

/-- The failures are counted in 32 bits. -/
def persistOauthRefreshFailure (accountId : Uuid) (errorCode errorMessage : String)
    (now : DateTime) : Result PgOAuthDb :=
  match db.credentials accountId with
  | none => .error "failed to load oauth refresh failure count"
  | some credential =>
    let nextFailures := min (credential.refreshFailureCount + 1) (2 ^ 31 - 1)
    let backoff := refreshBackoff nextFailures
    let stored := db.setCredential accountId fun c => { c with
      lastRefreshAt := some now
      lastRefreshStatus := "failed"
      lastRefreshErrorCode := some errorCode
      lastRefreshError := some (truncateErrorMessage errorMessage)
      refreshFailureCount := nextFailures
      refreshBackoffUntil := some (now + backoff)
      nextRefreshAt := some (now + backoff + schedule.jitter accountId)
      refreshReusedDetected := shouldRevokeOauthTokenFamily errorCode || c.refreshReusedDetected
      refreshInflightUntil := none
      updatedAt := now }
    .ok (match credential.tokenFamilyId with
      | some familyId =>
        if shouldRevokeOauthTokenFamily errorCode then
          { stored with
            accounts := stored.accounts.map fun a =>
              if (stored.credentials a.id).any (·.tokenFamilyId = some familyId) then
                { a with enabled := false }
              else a }
        else stored
      | none => stored)

/-! ## One refresh -/

/-- What comes of a refresh: its result, the tables, and the tokens it has presented with the
address it has presented them to. -/
structure PgRefreshOutcome where
  result : Result Unit
  db : PgOAuthDb
  presented : List (String × String)

def PgRefreshOutcome.ofStored (before : PgOAuthDb) (presented : List (String × String)) :
    Result PgOAuthDb → PgRefreshOutcome
  | .error e => ⟨.error e, before, presented⟩
  | .ok db => ⟨.ok (), db, presented⟩

/-- A refresh that has claimed its slot. -/
def refreshClaimed (accountId : Uuid) (row : PgRefreshRow)
    (upstream : String → String → RefreshAnswer) (finished : DateTime) : PgRefreshOutcome :=
  match cfg.requireCredentialCipher with
  | .error e => ⟨.error e, db, []⟩
  | .ok cipher =>
    match row.refreshTokenEnc with
    | none => ⟨.error "oauth credential not found", db, []⟩
    | some refreshTokenEnc =>
      match cipher.decrypt refreshTokenEnc with
      | .error e =>
        .ofStored db []
          (db.persistOauthRefreshFailure schedule accountId "credential_decrypt_failed" e finished)
      | .ok refreshToken =>
        match upstream refreshToken row.baseUrl with
        | .ok info =>
          .ofStored db [(refreshToken, row.baseUrl)]
            (db.persistOauthRefreshSuccess cfg schedule accountId info finished)
        | .error err =>
          .ofStored db [(refreshToken, row.baseUrl)]
            (db.persistOauthRefreshFailure schedule accountId err.code.asStr err.display finished)

/-- A refresh from its first query to its last. The status that it returns is not kept. -/
def refreshOauthAccountInner (accountId : Uuid) (force : Bool) (now : DateTime)
    (upstream : String → String → RefreshAnswer) (finished : DateTime) : PgRefreshOutcome :=
  match db.readRefresh accountId force now with
  | .error e => ⟨.error e, db, []⟩
  | .ok none => ⟨.ok (), db, []⟩
  | .ok (some row) =>
    match db.tryClaimOauthRefreshSlot accountId now with
    | none => ⟨.ok (), db, []⟩
    | some claimed => claimed.refreshClaimed cfg schedule accountId row upstream finished

/-! ## Whether a refresh takes effect -/

theorem tryGet_selectRefreshRow (columns : List RefreshColumn) (account : PgAccountRow)
    (column : RefreshColumn) :
    (db.selectRefreshRow columns account).tryGet column =
      if column ∈ columns then .ok (column.value account (db.credentials account.id))
      else .error ("no column found for name: " ++ column.name) := by
  unfold SelectedRow.tryGet selectRefreshRow
  induction columns with
  | nil => rfl
  | cons c columns ih =>
      rw [List.map_cons, List.find?_cons]
      by_cases hc : c = column
      · simp [hc]
      · simpa [hc, Ne.symm hc] using ih

theorem tryGetBool_refreshReusedDetected (account : PgAccountRow) :
    (db.selectRefreshRow refreshSelectList account).tryGetBool .refreshReusedDetected =
      .error "no column found for name: refresh_reused_detected" := by
  unfold SelectedRow.tryGetBool
  rw [tryGet_selectRefreshRow, if_neg (by decide)]
  rfl

/-- The refresh of an OAuth account does not get past its row. -/
theorem readRefresh_eq_error {accountId : Uuid} {account : PgAccountRow}
    (haccount : db.account? accountId = some account)
    (hprovider : account.authProvider = "oauth_refresh_token") (force : Bool) (now : DateTime) :
    ∃ e, db.readRefresh accountId force now = .error e := by
  have htext : ∀ column, column ∈ refreshSelectList →
      (db.selectRefreshRow refreshSelectList account).tryGet column =
        .ok (column.value account (db.credentials account.id)) := by
    intro column hcolumn
    rw [tryGet_selectRefreshRow, if_pos hcolumn]
  unfold readRefresh
  rw [haccount]
  simp only [SelectedRow.tryGetString, SelectedRow.tryGetText, SelectedRow.tryGetTimestamp,
    htext .authProvider (by decide), htext .tokenExpiresAt (by decide),
    htext .refreshBackoffUntil (by decide), htext .refreshInflightUntil (by decide),
    htext .nextRefreshAt (by decide), htext .fallbackAccessTokenEnc (by decide),
    htext .fallbackTokenExpiresAt (by decide), htext .lastRefreshStatus (by decide),
    tryGetBool_refreshReusedDetected, RefreshColumn.value, hprovider, bind, Except.bind, pure,
    Except.pure, parseUpstreamAuthProvider]
  cases db.credentials account.id with
  | none => exact ⟨_, rfl⟩
  | some credential =>
      cases hstatus : parseOauthRefreshStatus credential.lastRefreshStatus with
      | error e => exact ⟨e, by simp [hstatus]⟩
      | ok status =>
          exact ⟨"no column found for name: refresh_reused_detected", by simp [hstatus]⟩

/-- No refresh gets past its row, whatever the database holds. -/
theorem readRefresh_ne_some (accountId : Uuid) (force : Bool) (now : DateTime)
    (row : PgRefreshRow) : db.readRefresh accountId force now ≠ .ok (some row) := by
  cases haccount : db.account? accountId with
  | none =>
      unfold readRefresh
      rw [haccount]
      rintro ⟨⟩
  | some account =>
      by_cases hprovider : account.authProvider = "oauth_refresh_token"
      · obtain ⟨e, he⟩ := db.readRefresh_eq_error haccount hprovider force now
        rw [he]
        rintro ⟨⟩
      · unfold readRefresh
        rw [haccount]
        simp only [SelectedRow.tryGetString, SelectedRow.tryGetText, tryGet_selectRefreshRow,
          parseUpstreamAuthProvider, RefreshColumn.value]
        by_cases hlegacy : account.authProvider = "legacy_bearer"
        · simp [refreshSelectList, hlegacy, bind, Except.bind, pure, Except.pure]
        · simp [refreshSelectList, hprovider, hlegacy, bind, Except.bind, pure, Except.pure]

/-- No refresh presents a token. -/
theorem refresh_presents_nothing (accountId : Uuid) (force : Bool) (now : DateTime)
    (upstream : String → String → RefreshAnswer) (finished : DateTime) :
    (db.refreshOauthAccountInner cfg schedule accountId force now upstream finished).presented =
      [] := by
  unfold refreshOauthAccountInner
  cases hread : db.readRefresh accountId force now with
  | error e => rfl
  | ok row =>
      cases row with
      | none => rfl
      | some row => exact absurd hread (db.readRefresh_ne_some accountId force now row)

/-- The account is due or its refresh is forced, it is neither in backoff nor in flight, and
its refresh credential is not invalid for good with a fallback in its place. -/
structure RefreshDue (accountId : Uuid) (force : Bool) (now : DateTime) (account : PgAccountRow)
    (credential : PgCredentialRow) : Prop where
  hasAccount : db.account? accountId = some account
  hasCredential : db.credentials accountId = some credential
  oauth : account.authProvider = "oauth_refresh_token"
  due : force = true ∨ match credential.nextRefreshAt with
    | some refreshAt => refreshAt ≤ now
    | none => credential.tokenExpiresAt ≤ now + oauthRefreshWindow
  notInBackoff : credential.refreshBackoffUntil.any (now < ·) = false
  notInFlight : credential.refreshInflightUntil.any (now < ·) = false
  notCovered : ∀ status, parseOauthRefreshStatus credential.lastRefreshStatus = .ok status →
    (refreshCredentialIsTerminalInvalid status credential.refreshReusedDetected
        credential.lastRefreshErrorCode &&
      hasUsableAccessTokenFallback now credential.fallbackAccessTokenEnc.isSome
        credential.fallbackTokenExpiresAt) = false

/-- The stored refresh token is presented, and what the upstream answers is stored. -/
structure TakesEffect (accountId : Uuid) (account : PgAccountRow) (credential : PgCredentialRow)
    (cipher : CredentialCipher) (upstream : String → String → RefreshAnswer)
    (finished : DateTime) (outcome : PgRefreshOutcome) : Prop where
  presented : ∃ token, cipher.decrypt credential.refreshTokenEnc = .ok token ∧
    outcome.presented = [(token, account.baseUrl)]
  succeeded : ∀ token info, cipher.decrypt credential.refreshTokenEnc = .ok token →
    upstream token account.baseUrl = .ok info → ∃ stored,
      outcome.db.credentials accountId = some stored ∧
        cipher.encrypt info.accessToken = .ok stored.accessTokenEnc ∧
        cipher.encrypt info.refreshToken = .ok stored.refreshTokenEnc ∧
        stored.tokenExpiresAt = info.expiresAt ∧ stored.lastRefreshStatus = "ok" ∧
        stored.tokenVersion = credential.tokenVersion + 1
  failed : ∀ token err, cipher.decrypt credential.refreshTokenEnc = .ok token →
    upstream token account.baseUrl = .error err → ∃ stored,
      outcome.db.credentials accountId = some stored ∧ stored.lastRefreshStatus = "failed" ∧
        stored.lastRefreshErrorCode = some err.code.asStr ∧
        stored.refreshBackoffUntil.any (finished < ·) = true ∧
        stored.refreshFailureCount = credential.refreshFailureCount + 1

/-- No refresh of an OAuth account in the database takes effect: it returns an error before it
has tried, and stores nothing. -/
theorem refresh_takes_no_effect {accountId : Uuid} {force : Bool} {now : DateTime}
    {account : PgAccountRow} {credential : PgCredentialRow}
    (hdue : db.RefreshDue accountId force now account credential) (cipher : CredentialCipher)
    (upstream : String → String → RefreshAnswer) (finished : DateTime) :
    let outcome := db.refreshOauthAccountInner cfg schedule accountId force now upstream finished
    ¬ TakesEffect accountId account credential cipher upstream finished outcome ∧
      (∃ e, outcome.result = .error e) ∧ outcome.presented = [] ∧ outcome.db = db := by
  obtain ⟨e, he⟩ := db.readRefresh_eq_error hdue.hasAccount hdue.oauth force now
  have houtcome : db.refreshOauthAccountInner cfg schedule accountId force now upstream finished =
      ⟨.error e, db, []⟩ := by
    unfold refreshOauthAccountInner
    rw [he]
  dsimp only
  rw [houtcome]
  refine ⟨?_, ⟨e, rfl⟩, rfl, rfl⟩
  intro heffect
  obtain ⟨token, -, hpresented⟩ := heffect.presented
  cases hpresented

/-! ### An account that is due -/

def dueAccount : PgAccountRow where
  id := ⟨"account-1"⟩
  baseUrl := "https://chatgpt.com/backend-api/codex"
  chatgptAccountId := none
  authProvider := "oauth_refresh_token"
  enabled := true
  poolState := "active"
  createdAt := 0

def dueCredential : PgCredentialRow where
  accessTokenEnc := "at-1"
  refreshTokenEnc := "rt-1"
  fallbackAccessTokenEnc := none
  refreshTokenSha256 := "sha-rt-1"
  tokenFamilyId := some "family-1"
  tokenVersion := 1
  tokenExpiresAt := 0
  fallbackTokenExpiresAt := none
  lastRefreshAt := none
  lastRefreshStatus := "ok"
  lastRefreshErrorCode := none
  lastRefreshError := none
  refreshFailureCount := 0
  refreshBackoffUntil := none
  refreshReusedDetected := false
  refreshInflightUntil := none
  nextRefreshAt := none
  updatedAt := 0

def dueDb : PgOAuthDb where
  accounts := [dueAccount]
  credentials := fun id => if id = dueAccount.id then some dueCredential else none
  sessionProfiles := fun _ => none

def promptSchedule : RefreshSchedule where
  jitter := fun _ => 0
  jitter_nonneg := fun _ => le_refl 0

def unavailable : String → String → RefreshAnswer := fun _ _ =>
  .error (.upstream .upstreamUnavailable "status=503")

theorem dueDb_refreshDue : dueDb.RefreshDue dueAccount.id false 0 dueAccount dueCredential where
  hasAccount := by decide
  hasCredential := by decide
  oauth := rfl
  due := .inr (show (0 : Int) ≤ 0 + oauthRefreshWindow by decide)
  notInBackoff := rfl
  notInFlight := rfl
  notCovered := by
    intro status hstatus
    obtain rfl : OAuthRefreshStatus.ok = status := Except.ok.inj hstatus
    rfl

theorem dueDb_takes_no_effect :
    (dueDb.refreshOauthAccountInner plainConfig promptSchedule dueAccount.id false 0 unavailable
      0).presented = [] :=
  (refresh_takes_no_effect plainConfig promptSchedule dueDb dueDb_refreshDue plainCipher
    unavailable 0).2.2.1

theorem dueDb_not_takesEffect :
    dueDb.RefreshDue dueAccount.id false 0 dueAccount dueCredential ∧
      ¬ TakesEffect dueAccount.id dueAccount dueCredential plainCipher unavailable 0
        (dueDb.refreshOauthAccountInner plainConfig promptSchedule dueAccount.id false 0 unavailable
          0) := by
  refine ⟨dueDb_refreshDue, ?_⟩
  intro heffect
  obtain ⟨token, -, hpresented⟩ := heffect.presented
  have hnone : (dueDb.refreshOauthAccountInner plainConfig promptSchedule dueAccount.id false 0
      unavailable 0).presented = [] := by rfl
  rw [hnone] at hpresented
  cases hpresented

end PgOAuthDb

end CodexPool
