import CodexPool.ControlPlane.ImportFrame
import CodexPool.ControlPlane.PgRefresh

/-!
# Imports of OAuth accounts in the database

An import asks the upstream with its refresh token and updates the account with the token that
is answered or the identity that is; when there is none, it asks a second time with the same
token and inserts an account. Accounts with the same identity are then reduced to the one whose
credential was stored last.
-/

namespace CodexPool

/-- An account with the rows that are joined to it; a profile comes with the time when it was
stored. -/
structure PgImportRow where
  account : UpstreamAccount
  authProvider : UpstreamAuthProvider
  poolState : AccountPoolState
  credential : Option PgCredentialRow
  profile : Option (SessionProfileRecord × DateTime)

/-- Removes the spaces at both ends of a text, but no other white space. -/
def btrim (raw : String) : String :=
  String.ofList ((raw.toList.dropWhile (· = ' ')).reverse.dropWhile (· = ' ')).reverse

namespace PgImportRow

variable (row : PgImportRow)

def id : Uuid := row.account.id

def isOauth : Bool := row.authProvider = .oauthRefreshToken

def carries (refreshTokenSha256 : String) : Bool :=
  row.credential.any (·.refreshTokenSha256 = refreshTokenSha256)

def storedAt : DateTime :=
  ((row.credential.map (·.updatedAt)).or (row.profile.map (·.2))).getD row.account.createdAt

def NotAfter (a b : PgImportRow) : Prop :=
  a.storedAt < b.storedAt ∨ a.storedAt = b.storedAt ∧ a.account.NotAfter b.account

instance (a b : PgImportRow) : Decidable (a.NotAfter b) := inferInstanceAs (Decidable (_ ∨ _))

def accountUserId : Option String := row.profile.bind (·.1.profile.chatgptAccountUserId)

def userId : Option String := row.profile.bind (·.1.profile.chatgptUserId)

/-- The text that stands for the identity of an OAuth account. -/
def identityKey : Option String :=
  let present (value : Option String) := (value.map btrim).filter (· ≠ "")
  if row.isOauth then
    ((present row.accountUserId).map ("account_user:" ++ ·)).or do
      let user ← present row.userId
      let account ← present row.account.chatgptAccountId
      some ("user_account:" ++ user ++ ":" ++ account)
  else none

/-- The row has the identity that is looked for. -/
def hasIdentity (accountUserId userId accountId : Option String) : Bool :=
  match Text.trimmed? accountUserId, Text.trimmed? userId, Text.trimmed? accountId with
  | some target, _, _ => row.accountUserId = some target
  | none, some user, some target =>
    row.userId = some user && row.account.chatgptAccountId = some target
  | none, _, _ => false

end PgImportRow

/-- The rows of the OAuth accounts of the database, in the order of the table. -/
structure PgImportDb where
  rows : List PgImportRow
  keyed : (rows.map PgImportRow.id).Nodup

namespace PgImportDb

variable (cfg : OAuthConfig) (schedule : RefreshSchedule) (db : PgImportDb)

def upsert (row : PgImportRow) : PgImportDb :=
  ⟨Keyed.upsertBy PgImportRow.id row db.rows, Keyed.nodup_upsertBy db.keyed row⟩

def canonicalOauthAccountIdByIdentity (accountUserId userId accountId : Option String) :
    Option PgImportRow :=
  Latest.latest PgImportRow.NotAfter
    (db.rows.filter fun row => row.isOauth && row.hasIdentity accountUserId userId accountId)

/-- Deletes the rows of which a later one has the same identity. Without a target, of any
identity. -/
def dedupeOauthAccountsByIdentityInner (accountUserId userId accountId : Option String) :
    PgImportDb where
  rows := db.rows.filter fun row => !Latest.superseded PgImportRow.NotAfter PgImportRow.id
    PgImportRow.identityKey
    (fun key => (identityKeyOf accountUserId userId accountId).all (· = key)) db.rows row
  keyed := db.keyed.sublist (List.filter_sublist.map _)

/-! ## The row that an import stores -/

def encryptFallback (cipher : CredentialCipher) (fallbackAccessToken : Option String) :
    Result (Option String) :=
  match Text.trimmed? fallbackAccessToken with
  | none => pure none
  | some token => some <$> cipher.encrypt token

def importedCredentialRow (call : OAuthStore.UpsertCall) (info : OAuthTokenInfo)
    (accountId : Uuid) (familyId : String) (now : DateTime) : Result PgCredentialRow := do
  let cipher ← cfg.requireCredentialCipher
  let accessTokenEnc ← cipher.encrypt info.accessToken
  let fallbackAccessTokenEnc ← encryptFallback cipher call.req.fallbackAccessToken
  let refreshTokenEnc ← cipher.encrypt info.refreshToken
  pure {
    accessTokenEnc
    refreshTokenEnc
    fallbackAccessTokenEnc
    refreshTokenSha256 := cfg.refreshTokenSha256 info.refreshToken
    tokenFamilyId := some familyId
    tokenVersion := 1
    tokenExpiresAt := info.expiresAt
    fallbackTokenExpiresAt := call.req.fallbackTokenExpiresAt
    lastRefreshAt := some now
    lastRefreshStatus := "ok"
    lastRefreshErrorCode := none
    lastRefreshError := none
    refreshFailureCount := 0
    refreshBackoffUntil := none
    refreshReusedDetected := false
    refreshInflightUntil := none
    nextRefreshAt :=
      some (PgOAuthDb.scheduleNextOauthRefresh schedule info.expiresAt accountId now)
    updatedAt := now }

/-- The row that takes the place of one that exists. -/
def onConflict (old : Option PgCredentialRow) (excluded : PgCredentialRow) : PgCredentialRow :=
  match old with
  | none => excluded
  | some old => { excluded with
      fallbackAccessTokenEnc := excluded.fallbackAccessTokenEnc.or old.fallbackAccessTokenEnc
      tokenFamilyId := old.tokenFamilyId.or excluded.tokenFamilyId
      tokenVersion := max old.tokenVersion 0 + 1
      fallbackTokenExpiresAt := excluded.fallbackTokenExpiresAt.or old.fallbackTokenExpiresAt }

def upsertSessionProfile (old : Option (SessionProfileRecord × DateTime))
    (excluded : SessionProfileRecord) (now : DateTime) : SessionProfileRecord × DateTime :=
  match old with
  | none => (excluded, now)
  | some (old, _) =>
    ({ excluded with
        profile := excluded.profile.or old.profile
        sourceType := excluded.sourceType.or old.sourceType }, now)

def updatedRow (call : OAuthStore.UpsertCall) (info : OAuthTokenInfo)
    (draw : OAuthStore.UpsertDraw) (old : PgImportRow) : Result PgImportRow := do
  let credential ← importedCredentialRow cfg schedule call info old.id draw.familyId draw.now
  pure {
    account := OAuthStore.updatedAccount call info old.account
    authProvider := .oauthRefreshToken
    poolState := .active
    credential := some (onConflict old.credential credential)
    profile := some (upsertSessionProfile old.profile (.fromOauthTokenInfo info .refreshRotatable
      call.req.chatgptPlanType call.req.sourceType) draw.now) }

def insertedRow (call : OAuthStore.UpsertCall) (info : OAuthTokenInfo)
    (draw : OAuthStore.UpsertDraw) : Result PgImportRow := do
  let credential ←
    importedCredentialRow cfg schedule call info draw.accountId draw.familyId draw.now
  pure {
    account := OAuthStore.importedAccount call info draw
    authProvider := .oauthRefreshToken
    poolState := .active
    credential := some credential
    profile := some (.fromOauthTokenInfo info .refreshRotatable call.req.chatgptPlanType
      call.req.sourceType, draw.now) }

/-! ## Import -/

/-- The row that an import belongs to. -/
def matchedRow (call : OAuthStore.UpsertCall) (info : OAuthTokenInfo) : Option PgImportRow :=
  (db.rows.find? fun row =>
      row.isOauth && row.carries (cfg.refreshTokenSha256 info.refreshToken)).or
    (db.canonicalOauthAccountIdByIdentity info.profile.chatgptAccountUserId
      info.profile.chatgptUserId (call.req.chatgptAccountId.or info.chatgptAccountId))

/-- The row that is stored. `second` is the answer to the second request of an import that
inserts an account. -/
def rowOfUpsert (call : OAuthStore.UpsertCall) (info : OAuthTokenInfo) (second : RefreshAnswer)
    (draw : OAuthStore.UpsertDraw) : Result PgImportRow :=
  match db.matchedRow cfg call info with
  | some old => updatedRow cfg schedule call info draw old
  | none =>
    match second with
    | .error err => .error err.display
    | .ok info => insertedRow cfg schedule call info draw

/-- The row is stored, and duplicates of the identity that was answered first are deleted. -/
def storeRow (call : OAuthStore.UpsertCall) (info : OAuthTokenInfo) :
    Result PgImportRow → Result UpstreamAccount × PgImportDb
  | .error e => (.error e, db)
  | .ok row =>
    (.ok row.account,
      (db.upsert row).dedupeOauthAccountsByIdentityInner info.profile.chatgptAccountUserId
        info.profile.chatgptUserId (call.req.chatgptAccountId.or info.chatgptAccountId))

/-- An import from its first answer on. -/
def upsertOauthAccount (call : OAuthStore.UpsertCall) (answer second : RefreshAnswer)
    (draw : OAuthStore.UpsertDraw) : Result UpstreamAccount × PgImportDb :=
  match answer with
  | .error err => (.error err.display, db)
  | .ok info => db.storeRow call info (db.rowOfUpsert cfg schedule call info second draw)

/-! ## Records that are ready -/

def matchedOauthAccountIdForVaultRecord (record : OAuthRefreshTokenVaultRecord) :
    Option PgImportRow :=
  let rows := db.rows.filter fun row => row.isOauth && row.carries record.refreshTokenSha256
  Latest.latest (fun a b : PgImportRow => a.account.NotAfter b.account) rows

def readyCredentialRow (record : OAuthRefreshTokenVaultRecord) (accessTokenEnc : String)
    (tokenExpiresAt : DateTime) (accountId : Uuid) (now : DateTime)
    (old : Option PgCredentialRow) : PgCredentialRow where
  accessTokenEnc := accessTokenEnc
  refreshTokenEnc := record.refreshTokenEnc
  fallbackAccessTokenEnc := some accessTokenEnc
  refreshTokenSha256 := record.refreshTokenSha256
  tokenFamilyId := (old.bind (·.tokenFamilyId)).or
    (some (OAuthStore.stableVaultTokenFamilyId record.refreshTokenSha256))
  tokenVersion := (old.map fun old => max old.tokenVersion 0).getD 0
  tokenExpiresAt := tokenExpiresAt
  fallbackTokenExpiresAt := some tokenExpiresAt
  lastRefreshAt := none
  lastRefreshStatus := "never"
  lastRefreshErrorCode := none
  lastRefreshError := none
  refreshFailureCount := 0
  refreshBackoffUntil := none
  refreshReusedDetected := false
  refreshInflightUntil := none
  nextRefreshAt :=
    some (PgOAuthDb.scheduleNextOauthRefresh schedule tokenExpiresAt accountId now)
  updatedAt := now

def readyRow (record : OAuthRefreshTokenVaultRecord) (accessTokenEnc : String)
    (tokenExpiresAt : DateTime) (newId : Uuid) (now : DateTime) (old : Option PgImportRow) :
    PgImportRow :=
  let account := match old with
    | some old => OAuthStore.readyAccount record old.account
    | none => OAuthStore.newReadyAccount record newId now
  { account
    authProvider := .oauthRefreshToken
    poolState := .active
    credential := some (readyCredentialRow schedule record accessTokenEnc tokenExpiresAt account.id
      now (old.bind (·.credential)))
    profile := some (upsertSessionProfile (old.bind (·.profile))
      (OAuthStore.readySessionProfileFromVaultRecord record tokenExpiresAt) now) }

def materializeReadyOauthVaultRecordInner (record : OAuthRefreshTokenVaultRecord) (newId : Uuid)
    (now : DateTime) : Result PgImportDb := do
  let _ ← cfg.requireCredentialCipher
  match record.fallbackAccessTokenEnc with
  | none => .error "ready access token is missing"
  | some accessTokenEnc => do
    let tokenExpiresAt ← OAuthStore.readyTokenExpiresAt cfg record accessTokenEnc
    if tokenExpiresAt ≤ now + oauthMinValid then
      .error "ready access token is already expired"
    else
      pure (db.upsert (readyRow schedule record accessTokenEnc tokenExpiresAt newId now
        (db.matchedOauthAccountIdForVaultRecord record)))

/-! ## What an import touches -/

/-- A row is compared by the time it was stored, and then by its account. -/
def storedKey (row : PgImportRow) : Lex (DateTime × Lex (DateTime × String)) :=
  toLex (row.storedAt, row.account.createdKey)

theorem notAfter_iff {a b : PgImportRow} : a.NotAfter b ↔ storedKey a ≤ storedKey b := by
  rw [PgImportRow.NotAfter, UpstreamAccount.notAfter_iff, storedKey, storedKey,
    Prod.Lex.toLex_le_toLex]

instance : Std.Total PgImportRow.NotAfter where
  total a b := by
    simp only [notAfter_iff]
    exact le_total _ _

instance : IsTrans PgImportRow PgImportRow.NotAfter where
  trans _ _ _ hab hbc := notAfter_iff.2 ((notAfter_iff.1 hab).trans (notAfter_iff.1 hbc))

theorem id_eq_of_notAfter (a b : PgImportRow) (hab : a.NotAfter b) (hba : b.NotAfter a) :
    a.id = b.id :=
  have hkey := le_antisymm (notAfter_iff.1 hab) (notAfter_iff.1 hba)
  UpstreamAccount.id_eq_of_createdKey_eq (Prod.mk.inj (toLex.injective hkey)).2

variable {cfg schedule db}

/-- The row carries the token that was imported or the one that it was exchanged for, or has
the identity that was answered. -/
def OwnOfUpsert (cfg : OAuthConfig) (call : OAuthStore.UpsertCall) (info : OAuthTokenInfo)
    (row : PgImportRow) : Prop :=
  row.carries (cfg.refreshTokenSha256 call.req.refreshToken) = true ∨
    row.carries (cfg.refreshTokenSha256 info.refreshToken) = true ∨
      row.hasIdentity info.profile.chatgptAccountUserId info.profile.chatgptUserId
        (call.req.chatgptAccountId.or info.chatgptAccountId) = true

section Upsert

variable {call : OAuthStore.UpsertCall} {info : OAuthTokenInfo} {draw : OAuthStore.UpsertDraw}
  {second : RefreshAnswer} {row : PgImportRow}

theorem ownOfUpsert_of_matchedRow (h : db.matchedRow cfg call info = some row) :
    row ∈ db.rows ∧ OwnOfUpsert cfg call info row := by
  unfold matchedRow canonicalOauthAccountIdByIdentity at h
  rw [Option.or_eq_some_iff] at h
  obtain h | ⟨-, h⟩ := h
  · have hcarries := List.find?_some h
    rw [Bool.and_eq_true] at hcarries
    exact ⟨List.mem_of_find?_eq_some h, .inr (.inl hcarries.2)⟩
  · have hmem := Latest.mem_of_latest h
    rw [List.mem_filter, Bool.and_eq_true] at hmem
    exact ⟨hmem.1, .inr (.inr hmem.2.2)⟩

theorem rowOfUpsert_id {row : PgImportRow}
    (h : db.rowOfUpsert cfg schedule call info second draw = .ok row) :
    row.id = ((db.matchedRow cfg call info).map PgImportRow.id).getD draw.accountId := by
  unfold rowOfUpsert at h
  cases hmatched : db.matchedRow cfg call info with
  | some old =>
      simp only [hmatched, updatedRow, Result.bind_eq_ok, pure, Except.pure,
        Except.ok.injEq] at h
      obtain ⟨credential, -, rfl⟩ := h
      rfl
  | none =>
      cases second with
      | error err =>
          rw [hmatched] at h
          cases h
      | ok info' =>
          simp only [hmatched, insertedRow, Result.bind_eq_ok, pure, Except.pure,
            Except.ok.injEq] at h
          obtain ⟨credential, -, rfl⟩ := h
          rfl

theorem ownOfUpsert_of_id_eq (hfresh : ∀ row ∈ db.rows, row.id ≠ draw.accountId)
    {stored : PgImportRow} (h : db.rowOfUpsert cfg schedule call info second draw = .ok stored)
    (hrow : row ∈ db.rows) (hid : row.id = stored.id) : OwnOfUpsert cfg call info row := by
  rw [rowOfUpsert_id h] at hid
  cases hmatched : db.matchedRow cfg call info with
  | none =>
      rw [hmatched] at hid
      exact absurd hid (hfresh row hrow)
  | some old =>
      rw [hmatched] at hid
      obtain ⟨hold, hown⟩ := ownOfUpsert_of_matchedRow hmatched
      obtain rfl := List.inj_on_of_nodup_map db.keyed hrow hold hid
      exact hown

/-- What one import may do: rows that are not its own are left as they are, and the account that
it returns is there and carries a token that was answered. -/
def UpsertIsolated (cfg : OAuthConfig) (schedule : RefreshSchedule) (db : PgImportDb)
    (call : OAuthStore.UpsertCall) (answer second : RefreshAnswer)
    (draw : OAuthStore.UpsertDraw) : Prop :=
  (∀ row ∈ db.rows, (∀ info, answer = .ok info → ¬ OwnOfUpsert cfg call info row) →
      row ∈ (db.upsertOauthAccount cfg schedule call answer second draw).2.rows) ∧
    ∀ account, (db.upsertOauthAccount cfg schedule call answer second draw).1 = .ok account →
      ∃ row ∈ (db.upsertOauthAccount cfg schedule call answer second draw).2.rows,
        row.account = account ∧ ∃ info, (answer = .ok info ∨ second = .ok info) ∧
          row.carries (cfg.refreshTokenSha256 info.refreshToken) = true

/-- No row that must stay is superseded by the cleanup that follows an import. -/
def UpsertKeeps (cfg : OAuthConfig) (schedule : RefreshSchedule) (db : PgImportDb)
    (call : OAuthStore.UpsertCall) (answer second : RefreshAnswer)
    (draw : OAuthStore.UpsertDraw) : Prop :=
  ∀ info, answer = .ok info → ∀ row, db.rowOfUpsert cfg schedule call info second draw = .ok row →
    Latest.NoneSuperseded PgImportRow.NotAfter PgImportRow.id PgImportRow.identityKey
      (fun key => (identityKeyOf info.profile.chatgptAccountUserId info.profile.chatgptUserId
        (call.req.chatgptAccountId.or info.chatgptAccountId)).all (· = key))
      db.rows (OwnOfUpsert cfg call info) row

theorem carries_of_rowOfUpsert (h : db.rowOfUpsert cfg schedule call info second draw = .ok row) :
    ∃ info', (info' = info ∨ second = .ok info') ∧
      row.carries (cfg.refreshTokenSha256 info'.refreshToken) = true := by
  unfold rowOfUpsert at h
  cases hmatched : db.matchedRow cfg call info with
  | some old =>
      simp only [hmatched, updatedRow, importedCredentialRow, Result.bind_eq_ok, pure, Except.pure,
        Except.ok.injEq] at h
      obtain ⟨credential, ⟨_, -, _, -, _, -, _, -, rfl⟩, rfl⟩ := h
      refine ⟨info, .inl rfl, ?_⟩
      unfold PgImportRow.carries onConflict
      cases old.credential <;> simp
  | none =>
      cases second with
      | error err =>
          rw [hmatched] at h
          cases h
      | ok info' =>
          simp only [hmatched, insertedRow, importedCredentialRow, Result.bind_eq_ok, pure,
            Except.pure, Except.ok.injEq] at h
          obtain ⟨credential, ⟨_, -, _, -, _, -, _, -, rfl⟩, rfl⟩ := h
          exact ⟨info', .inr rfl, by simp [PgImportRow.carries]⟩

theorem pgUpsertIsolated_iff (hfresh : ∀ row ∈ db.rows, row.id ≠ draw.accountId)
    (answer second : RefreshAnswer) :
    UpsertIsolated cfg schedule db call answer second draw ↔
      UpsertKeeps cfg schedule db call answer second draw := by
  unfold UpsertIsolated UpsertKeeps
  cases answer with
  | error err =>
      refine iff_of_true ⟨fun row hrow _ => hrow, ?_⟩ ?_
      · rintro _ ⟨⟩
      · rintro _ ⟨⟩
  | ok info =>
      simp only [Except.ok.injEq, forall_eq', upsertOauthAccount, storeRow]
      cases hrow : db.rowOfUpsert cfg schedule call info second draw with
      | error e =>
          refine iff_of_true ⟨fun row hrow _ => hrow, ?_⟩ ?_
          · rintro _ ⟨⟩
          · rintro _ ⟨⟩
      | ok stored =>
          simp only [Except.ok.injEq, forall_eq']
          rw [← Latest.filter_upsertBy_iff PgImportRow.identityKey _ db.keyed id_eq_of_notAfter
            fun row hmem hid => ownOfUpsert_of_id_eq hfresh hrow hmem hid]
          refine and_congr_right fun _ => ⟨fun h => ?_, fun h => ?_⟩
          · obtain ⟨row, hmem, haccount, -⟩ := h
            have hid : row.id = stored.id := congrArg UpstreamAccount.id haccount
            have hstored : stored ∈ (db.upsert stored).rows :=
              (Keyed.mem_upsertBy db.keyed).2 (.inl rfl)
            obtain rfl := List.inj_on_of_nodup_map (db.upsert stored).keyed
              (List.mem_filter.1 hmem).1 hstored hid
            exact hmem
          · obtain ⟨info', hinfo, hcarries⟩ := carries_of_rowOfUpsert hrow
            exact ⟨stored, h, rfl, info', by simpa [eq_comm] using hinfo, hcarries⟩

end Upsert

section Ready

variable {record : OAuthRefreshTokenVaultRecord} {newId : Uuid} {now : DateTime}

/-- What storing a ready record may do. -/
def ReadyIsolated (cfg : OAuthConfig) (schedule : RefreshSchedule) (db : PgImportDb)
    (record : OAuthRefreshTokenVaultRecord) (newId : Uuid) (now : DateTime) : Prop :=
  ∀ db', db.materializeReadyOauthVaultRecordInner cfg schedule record newId now = .ok db' →
    ∀ row ∈ db.rows, row.carries record.refreshTokenSha256 = false → row ∈ db'.rows

theorem carries_of_matchedOauthAccountIdForVaultRecord {row : PgImportRow}
    (h : db.matchedOauthAccountIdForVaultRecord record = some row) :
    row ∈ db.rows ∧ row.carries record.refreshTokenSha256 = true := by
  unfold matchedOauthAccountIdForVaultRecord at h
  have hmem := Latest.mem_of_latest h
  rw [List.mem_filter, Bool.and_eq_true] at hmem
  exact ⟨hmem.1, hmem.2.2⟩

theorem pgReadyIsolated (hfresh : ∀ row ∈ db.rows, row.id ≠ newId) :
    ReadyIsolated cfg schedule db record newId now := by
  intro db' h row hrow hnot
  unfold materializeReadyOauthVaultRecordInner at h
  rw [Result.bind_eq_ok] at h
  obtain ⟨_, -, h⟩ := h
  cases htoken : record.fallbackAccessTokenEnc with
  | none =>
      rw [htoken] at h
      cases h
  | some accessTokenEnc =>
      simp only [htoken, Result.bind_eq_ok] at h
      obtain ⟨tokenExpiresAt, -, h⟩ := h
      split_ifs at h
      obtain rfl := Except.ok.inj h
      refine (Keyed.mem_upsertBy db.keyed).2 (.inr ⟨hrow, ?_⟩)
      cases hmatched : db.matchedOauthAccountIdForVaultRecord record with
      | none => exact hfresh row hrow
      | some old =>
          obtain ⟨hold, hcarries⟩ := carries_of_matchedOauthAccountIdForVaultRecord hmatched
          intro hid
          rw [List.inj_on_of_nodup_map db.keyed hrow hold hid, hcarries] at hnot
          cases hnot

end Ready

end PgImportDb

/-! ## Both stores -/

/-- An import leaves the accounts that are not its own, and has the account that it returns, if
and only if none of these is superseded by a later account of its identity, in the in-memory
store and in the database. A ready record leaves them if and only if an account carries its
token or none has its account id in the in-memory store, and always in the database. -/
theorem import_isolated_iff (cfg : OAuthConfig) (schedule : RefreshSchedule) (s : OAuthStore)
    (db : PgImportDb) (draw : OAuthStore.UpsertDraw) (newId : Uuid) (hkeyed : s.WellKeyed)
    (hfresh : ∀ a ∈ s.accounts, a.id ≠ draw.accountId ∧ a.id ≠ newId)
    (hfresh' : ∀ row ∈ db.rows, row.id ≠ draw.accountId ∧ row.id ≠ newId)
    (call : OAuthStore.UpsertCall) (answer second : RefreshAnswer)
    (record : OAuthRefreshTokenVaultRecord) (now : DateTime) :
    (OAuthStore.UpsertIsolated cfg s call answer draw ↔
        OAuthStore.UpsertKeeps cfg s call answer draw) ∧
      (OAuthStore.ReadyIsolated cfg s record newId now ↔
        OAuthStore.ReadyKeeps cfg s record now) ∧
      (PgImportDb.UpsertIsolated cfg schedule db call answer second draw ↔
        PgImportDb.UpsertKeeps cfg schedule db call answer second draw) ∧
      PgImportDb.ReadyIsolated cfg schedule db record newId now :=
  ⟨OAuthStore.upsertIsolated_iff hkeyed (fun a ha => (hfresh a ha).1) answer,
    OAuthStore.readyIsolated_iff hkeyed fun a ha => (hfresh a ha).2,
    PgImportDb.pgUpsertIsolated_iff (fun row hrow => (hfresh' row hrow).1) answer second,
    PgImportDb.pgReadyIsolated fun row hrow => (hfresh' row hrow).2⟩

/-! ### Two accounts of one user -/

def userProfile (accountUserId : String) : SessionProfileRecord where
  credentialKind := .refreshRotatable
  tokenExpiresAt := none
  profile := { OAuthProfile.empty with chatgptAccountUserId := some accountUserId }
  sourceType := none

def twinStore : OAuthStore where
  accounts := [workspaceAccount "a" "workspace" 0, workspaceAccount "b" "workspace" 1]
  providers := fun _ => some .oauthRefreshToken
  credentials := fun id => some (plainCredential ("token-" ++ id.text) 0)
  sessionProfiles := fun _ => some (userProfile "user")
  healthStates := fun _ => none
  vault := []

def newcomerRequest : ImportOAuthRefreshTokenRequest where
  label := "newcomer"
  baseUrl := "https://chatgpt.com/backend-api/codex"
  refreshToken := "token-c"
  fallbackAccessToken := none
  fallbackTokenExpiresAt := none
  chatgptAccountId := none
  mode := none
  enabled := none
  priority := none
  chatgptPlanType := none
  sourceType := none

def newcomerCall : OAuthStore.UpsertCall where
  req := newcomerRequest
  mode := .codexOauth
  baseUrl := newcomerRequest.baseUrl

def newcomerDraw : OAuthStore.UpsertDraw where
  accountId := ⟨"c"⟩
  familyId := "family-c"
  now := 2

/-- A record of the workspace that can be used as it is. -/
def readyRecord : OAuthRefreshTokenVaultRecord where
  id := ⟨"record"⟩
  label := "record"
  email := none
  baseUrl := "https://chatgpt.com/backend-api/codex"
  refreshTokenEnc := "token-d"
  fallbackAccessTokenEnc := some "access-d"
  fallbackTokenExpiresAt := some (seconds 3600)
  refreshTokenSha256 := "sha-token-d"
  chatgptAccountId := some "workspace"
  chatgptPlanType := none
  sourceType := none
  desiredMode := .codexOauth
  desiredEnabled := true
  desiredPriority := 100
  status := .ready
  failureCount := 0
  backoffUntil := none
  nextAttemptAt := none
  lastErrorCode := none
  lastErrorMessage := none
  admissionSource := none
  admissionCheckedAt := none
  admissionRetryAfter := none
  admissionErrorCode := none
  admissionErrorMessage := none
  admissionRateLimits := []
  admissionRateLimitsExpiresAt := none
  failureStage := none
  attemptCount := 0
  transientRetryCount := 0
  nextRetryAt := none
  retryable := true
  terminalReason := none
  createdAt := 0
  updatedAt := 0

/-- With a single account nothing is superseded. -/
def singleStore : OAuthStore :=
  { twinStore with accounts := [workspaceAccount "a" "workspace" 0] }

theorem singleStore_keeps :
    OAuthStore.UpsertKeeps plainConfig singleStore newcomerCall
      (.ok (anonymousTokens "token-c2" 0)) newcomerDraw := by
  rintro info ⟨⟩ -
  have hkey : OAuthStore.storedIdentityKey
      (singleStore.accountOfUpsert plainConfig newcomerCall (anonymousTokens "token-c2" 0)
        newcomerDraw)
      (singleStore.profileOfUpsert plainConfig newcomerCall (anonymousTokens "token-c2" 0)) =
        none := by
    decide +kernel
  rw [hkey]
  constructor
  · rintro k ⟨⟩
  · intro a ha _ k _ _
    obtain rfl : a = workspaceAccount "a" "workspace" 0 :=
      List.mem_singleton.1 (OAuthStore.mem_oauthAccounts.1 ha).1
    refine ⟨fun b hb _ _ => ?_, ?_⟩
    · obtain rfl : b = workspaceAccount "a" "workspace" 0 :=
        List.mem_singleton.1 (OAuthStore.mem_oauthAccounts.1 hb).1
      exact .inr ⟨rfl, le_refl _⟩
    · rintro ⟨⟩

theorem singleStore_isolated :
    OAuthStore.UpsertIsolated plainConfig singleStore newcomerCall
      (.ok (anonymousTokens "token-c2" 0)) newcomerDraw :=
  (import_isolated_iff plainConfig ⟨fun _ => 0, fun _ => le_refl 0⟩ singleStore
    ⟨[], List.nodup_nil⟩ newcomerDraw ⟨"d"⟩ (List.nodup_singleton _) (by decide) (by simp)
    newcomerCall (.ok (anonymousTokens "token-c2" 0)) (.error .notConfigured) readyRecord
    0).1.2 singleStore_keeps

/-- An import that names no identity deletes an account of another user, and a ready record
takes the account of another user of its workspace. -/
theorem twinStore_not_isolated :
    ¬ OAuthStore.UpsertIsolated plainConfig twinStore newcomerCall
        (.ok (anonymousTokens "token-c2" 0)) newcomerDraw ∧
      ¬ OAuthStore.ReadyIsolated plainConfig twinStore readyRecord ⟨"d"⟩ 0 := by
  constructor
  · intro h
    have hstays := (h.1 (workspaceAccount "a" "workspace" 0) (by decide) ?_).account
    · revert hstays
      decide +kernel
    · rintro _ ⟨⟩
      rintro (⟨_, ⟨⟩, hsha⟩ | ⟨_, ⟨⟩, hsha⟩ | hidentity)
      · revert hsha
        decide
      · revert hsha
        decide
      · revert hidentity
        decide
  · intro h
    have hstays := h _ rfl (workspaceAccount "b" "workspace" 1) (by decide) ?_
    · have haccount := hstays.account
      revert haccount
      decide +kernel
    · rintro ⟨_, ⟨⟩, hsha⟩
      revert hsha
      decide

end CodexPool
