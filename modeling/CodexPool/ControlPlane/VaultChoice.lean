import CodexPool.ControlPlane.PgImport
import CodexPool.ControlPlane.VaultActivation
import CodexPool.Lib.Selections

/-!
# Which records of the vault are activated

Both stores activate a limited number of the records that are eligible. The memory sorts them by
status and age and cuts the list. The database cuts by age alone, and only what it has loaded is
sorted by status. So it takes the best records just as long as no record that it leaves out has a
better status than one that it takes.
-/

namespace CodexPool

open OAuthStore (oauthVaultActivationPriority isActivationCandidate comesFirst)

/-- The order in which records are to be activated: by status, then by age. -/
def ActivatesBefore (a b : OAuthRefreshTokenVaultRecord) : Prop :=
  oauthVaultActivationPriority a.status < oauthVaultActivationPriority b.status ∨
    oauthVaultActivationPriority a.status = oauthVaultActivationPriority b.status ∧
      a.createdAt ≤ b.createdAt

/-- Records that a batch takes and their order in it, in the database. -/
def pgComesFirst (a b : OAuthRefreshTokenVaultRecord) : Bool :=
  let checked (r : OAuthRefreshTokenVaultRecord) := r.admissionCheckedAt.getD r.createdAt
  decide (oauthVaultActivationPriority a.status < oauthVaultActivationPriority b.status) ||
    oauthVaultActivationPriority a.status = oauthVaultActivationPriority b.status &&
      (decide (checked a < checked b) || checked a = checked b &&
        (decide (a.createdAt < b.createdAt) ||
          a.createdAt = b.createdAt && decide (a.id.text ≤ b.id.text)))

/-- The tables that an activation reads and writes. -/
structure PgVaultDb where
  accounts : PgImportDb
  vault : List OAuthRefreshTokenVaultRecord
  keyed : (vault.map (·.id)).Nodup

/-- What the turn of a record meets in the database. -/
structure PgActivationInput where
  answer : RefreshAnswer
  second : RefreshAnswer
  draw : OAuthStore.UpsertDraw

/-- A row that a turn stores, and the identity whose duplicates are deleted after an import. -/
structure PgTurnRow where
  row : PgImportRow
  identity : Option (Option String × Option String × Option String)

/-- The end of a turn: the record, the accounts that the turn has read, and what it meets. -/
structure PgTurn where
  candidate : OAuthRefreshTokenVaultRecord
  read : PgImportDb
  input : PgActivationInput

namespace PgVaultDb

variable (cfg : OAuthConfig) (schedule : RefreshSchedule) (limits : VaultLimits) (db : PgVaultDb)

/-- An order in which the database may return the eligible records: by age, and in any order where
the age is the same. -/
structure ReturnsByAge (now : DateTime) (rows : List OAuthRefreshTokenVaultRecord) : Prop where
  perm : rows.Perm (db.vault.filter (isActivationCandidate now))
  byAge : rows.Pairwise fun a b => a.createdAt ≤ b.createdAt

def loadOauthVaultActivationCandidates (rows : List OAuthRefreshTokenVaultRecord) (limit : Nat) :
    List OAuthRefreshTokenVaultRecord :=
  (rows.take limit).mergeSort pgComesFirst

/-- How many records are to be activated. -/
def activationLimit : Nat :=
  let runtimeCount := db.accounts.rows.length
  let activeCount :=
    (db.accounts.rows.filter fun row => row.account.enabled && row.poolState = .active).length
  if limits.runtimePoolCap ≤ runtimeCount then 0
  else if limits.activePoolTarget ≤ activeCount then 0
  else
    min (min (limits.activePoolTarget - activeCount) limits.batchSize)
      (limits.runtimePoolCap - runtimeCount)

/-- The records that a call takes, from the counting of the accounts on. -/
def activationBatch (rows : List OAuthRefreshTokenVaultRecord) :
    List OAuthRefreshTokenVaultRecord :=
  loadOauthVaultActivationCandidates rows (db.activationLimit limits)

/-! ## The turns of a batch -/

/-- The import of a record, or the code and the text with which it is marked as failed. -/
def activationRequest (candidate : OAuthRefreshTokenVaultRecord) :
    Except (String × String) ImportOAuthRefreshTokenRequest :=
  match cfg.requireCredentialCipher with
  | .error e => .error ("credential_cipher_missing", e)
  | .ok cipher =>
    match cipher.decrypt candidate.refreshTokenEnc with
    | .error e => .error ("credential_decrypt_failed", e)
    | .ok refreshToken =>
      if Text.trim refreshToken = "" then .error ("invalid_refresh_token", "refresh token is empty")
      else
        match candidate.fallbackAccessTokenEnc.mapM cipher.decrypt with
        | .error e => .error ("credential_decrypt_failed", e)
        | .ok fallbackAccessToken =>
          .ok {
            label := candidate.label
            baseUrl := candidate.baseUrl
            refreshToken
            fallbackAccessToken := fallbackAccessToken.filter (Text.trim · ≠ "")
            fallbackTokenExpiresAt := candidate.fallbackTokenExpiresAt
            chatgptAccountId := candidate.chatgptAccountId
            mode := some candidate.desiredMode
            enabled := some candidate.desiredEnabled
            priority := some candidate.desiredPriority
            chatgptPlanType := candidate.chatgptPlanType
            sourceType := candidate.sourceType }

def readyTurnRow (read : PgImportDb) (candidate : OAuthRefreshTokenVaultRecord)
    (draw : OAuthStore.UpsertDraw) : Result PgTurnRow := do
  let _ ← cfg.requireCredentialCipher
  match candidate.fallbackAccessTokenEnc with
  | none => .error "ready access token is missing"
  | some accessTokenEnc => do
    let tokenExpiresAt ← OAuthStore.readyTokenExpiresAt cfg candidate accessTokenEnc
    if tokenExpiresAt ≤ draw.now + oauthMinValid then
      .error "ready access token is already expired"
    else
      pure ⟨PgImportDb.readyRow schedule candidate accessTokenEnc tokenExpiresAt draw.accountId
        draw.now (read.matchedOauthAccountIdForVaultRecord candidate), none⟩

def importTurnRow (read : PgImportDb) (candidate : OAuthRefreshTokenVaultRecord)
    (input : PgActivationInput) : Result PgTurnRow :=
  match activationRequest cfg candidate with
  | .error (_, message) => .error message
  | .ok req => do
    let call ← OAuthStore.startUpsert cfg req
    match input.answer with
    | .error err => .error err.display
    | .ok info => do
      let row ← read.rowOfUpsert cfg schedule call info input.second input.draw
      pure ⟨row, some (info.profile.chatgptAccountUserId, info.profile.chatgptUserId,
        call.req.chatgptAccountId.or info.chatgptAccountId)⟩

/-- What a turn stores: a row of one account, unless it fails. -/
def turnRow (turn : PgTurn) : Option PgTurnRow :=
  match turn.candidate.status with
  | .ready => (readyTurnRow cfg schedule turn.read turn.candidate turn.input.draw).toOption
  | .needsRefresh | .queued =>
    (importTurnRow cfg schedule turn.read turn.candidate turn.input).toOption
  | .noQuota | .failed => none

def storeTurnRow (accounts : PgImportDb) (stored : PgTurnRow) : PgImportDb :=
  match stored.identity with
  | none => accounts.upsert stored.row
  | some (accountUserId, userId, accountId) =>
    (accounts.upsert stored.row).dedupeOauthAccountsByIdentityInner accountUserId userId accountId

def endTurn (accounts : PgImportDb) (turn : PgTurn) : PgImportDb :=
  (turnRow cfg schedule turn).elim accounts (storeTurnRow accounts)

/-- The accounts after the turns of a batch, which run side by side and end in some order. -/
def accountsAfter (turns : List PgTurn) : PgImportDb :=
  turns.foldl (endTurn cfg schedule) db.accounts

end PgVaultDb

/-! ## The number of accounts -/

namespace OAuthStore

variable (cfg : OAuthConfig)

theorem length_insertAccount (s : OAuthStore) (account : UpstreamAccount) :
    (s.insertAccount account).accounts.length ≤ s.accounts.length + 1 :=
  Keyed.length_upsertBy_le account s.accounts

theorem length_updateAccount (s : OAuthStore) (accountId : Uuid)
    (f : UpstreamAccount → UpstreamAccount) :
    (s.updateAccount accountId f).accounts.length = s.accounts.length :=
  List.length_map _

theorem accounts_finishActivation (s : OAuthStore) (candidate : OAuthRefreshTokenVaultRecord)
    (result : Result UpstreamAccount) (now : DateTime) :
    (s.finishActivation candidate result now).accounts = s.accounts := by
  cases result <;> rfl

theorem accounts_probe (s : OAuthStore) (recordId : Uuid) (checkedAt : DateTime)
    (answer : ProbeAnswer) :
    (s.probeOauthVaultAdmissionInner cfg recordId checkedAt answer).accounts = s.accounts := by
  unfold probeOauthVaultAdmissionInner
  cases s.vaultRecord? recordId <;> rfl

theorem length_storeReady (s : OAuthStore) (record : OAuthRefreshTokenVaultRecord)
    (accessTokenEnc : String) (tokenExpiresAt : DateTime) (newId : Uuid) (now : DateTime) :
    (s.storeReady record accessTokenEnc tokenExpiresAt newId now).2.accounts.length ≤
      s.accounts.length + 1 := by
  unfold storeReady
  cases s.matchedOauthAccountIdForVaultRecord record with
  | none => exact length_insertAccount s _
  | some matched =>
      exact (length_updateAccount s matched.id (readyAccount record)).le.trans (Nat.le_succ _)

theorem length_activateReady (s : OAuthStore) (candidateId newId : Uuid) (now finished : DateTime) :
    (s.activateReady cfg candidateId newId now finished).2.accounts.length ≤
      s.accounts.length + 1 := by
  unfold activateReady
  cases s.vaultRecord? candidateId with
  | none => exact Nat.le_succ _
  | some record =>
      dsimp only
      split
      · cases hresult : s.materializeReadyOauthVaultRecordInner cfg record newId now with
        | error e => simp [accounts_finishActivation]
        | ok stored =>
            obtain ⟨account, s'⟩ := stored
            simp only [accounts_finishActivation]
            unfold materializeReadyOauthVaultRecordInner at hresult
            cases haccess : record.fallbackAccessTokenEnc with
            | none => simp [haccess] at hresult
            | some accessTokenEnc =>
                simp only [haccess, Result.bind_eq_ok] at hresult
                obtain ⟨tokenExpiresAt, -, hstored⟩ := hresult
                split at hstored
                · cases hstored
                · cases hstored
                  exact length_storeReady s record accessTokenEnc tokenExpiresAt newId now
      · exact Nat.le_succ _

theorem length_storeTokens (s : OAuthStore) (call : UpsertCall) (info : OAuthTokenInfo)
    (draw : UpsertDraw) :
    (s.storeTokens cfg call info draw).2.accounts.length ≤ s.accounts.length + 1 := by
  unfold storeTokens
  cases s.matchedAccountId cfg call info with
  | none =>
      unfold importOauthRefreshTokenWithTokenInfoInner
      cases importedCredential cfg call info draw with
      | error e => exact Nat.le_succ _
      | ok credential => exact length_insertAccount s _
  | some accountId =>
      dsimp only
      cases s.account? accountId with
      | none => exact Nat.le_succ _
      | some account =>
          have hupdated := length_updateAccount s account.id (updatedAccount call info)
          dsimp only [updateMatched]
          cases updatedCredential cfg call info draw (s.credentials account.id) with
          | error e => exact hupdated.le.trans (Nat.le_succ _)
          | ok credential => exact hupdated.le.trans (Nat.le_succ _)

theorem length_finishUpsert (s : OAuthStore) (call : UpsertCall) (answer : RefreshAnswer)
    (draw : UpsertDraw) :
    (s.finishUpsert cfg call answer draw).2.accounts.length ≤ s.accounts.length + 1 := by
  unfold finishUpsert
  cases answer with
  | error err => exact Nat.le_succ _
  | ok info =>
      have hstored := length_storeTokens cfg s call info draw
      dsimp only
      cases hresult : s.storeTokens cfg call info draw with
      | mk r s' =>
          rw [hresult] at hstored
          cases r with
          | error e => exact hstored
          | ok upserted => exact (List.length_filter_le _ _).trans hstored

/-- The turn of a candidate adds one account at most. -/
theorem length_activateCandidate (s : OAuthStore) (candidate : OAuthRefreshTokenVaultRecord)
    (input : ActivationInput) :
    (s.activateCandidate cfg candidate input).2.accounts.length ≤ s.accounts.length + 1 := by
  have himport : (s.importCandidate cfg candidate input).2.accounts.length ≤
      s.accounts.length + 1 := by
    unfold importCandidate
    cases activationRequest cfg candidate with
    | error e => exact Nat.le_succ _
    | ok request =>
        cases request with
        | error message => exact Nat.le_succ _
        | ok req =>
            dsimp only
            cases startUpsert cfg req with
            | error e => exact Nat.le_succ _
            | ok call =>
                have hfinished := length_finishUpsert cfg s call input.answer input.draw
                dsimp only [activateImported]
                cases hresult : s.finishUpsert cfg call input.answer input.draw with
                | mk r s' =>
                    rw [hresult] at hfinished
                    cases r <;> exact hfinished
  unfold activateCandidate
  cases candidate.status with
  | ready =>
      have hprobed := accounts_probe cfg s candidate.id input.checkedAt input.probeAnswer
      have hready := length_activateReady cfg (s.probeOauthVaultAdmissionInner cfg
        candidate.id input.checkedAt input.probeAnswer) candidate.id input.draw.accountId
          input.draw.now input.finished
      rw [hprobed] at hready
      exact hready
  | needsRefresh => exact himport
  | queued => exact himport
  | noQuota => exact Nat.le_succ _
  | failed => exact Nat.le_succ _

theorem accounts_reprobed (s : OAuthStore) (limits : VaultLimits) (call : ActivationCall) :
    (s.reprobed cfg limits call).accounts = s.accounts := by
  have hfold (recordIds : List Uuid) (s : OAuthStore) :
      (recordIds.foldl (fun s recordId => s.probeOauthVaultAdmissionInner cfg recordId
        (call.reprobe recordId).1 (call.reprobe recordId).2) s).accounts = s.accounts := by
    induction recordIds generalizing s with
    | nil => rfl
    | cons recordId recordIds ih => rw [List.foldl_cons, ih, accounts_probe]
  exact hfold _ s

end OAuthStore

namespace PgVaultDb

variable (cfg : OAuthConfig) (schedule : RefreshSchedule) (limits : VaultLimits) (db : PgVaultDb)

theorem length_storeTurnRow (accounts : PgImportDb) (stored : PgTurnRow) :
    (storeTurnRow accounts stored).rows.length ≤ accounts.rows.length + 1 := by
  have hupsert : (accounts.upsert stored.row).rows.length ≤ accounts.rows.length + 1 :=
    Keyed.length_upsertBy_le stored.row accounts.rows
  unfold storeTurnRow
  cases stored.identity with
  | none => exact hupsert
  | some identity => exact (List.length_filter_le _ _).trans hupsert

theorem length_accountsAfter (turns : List PgTurn) :
    (db.accountsAfter cfg schedule turns).rows.length ≤
      db.accounts.rows.length + turns.length := by
  have hfold (accounts : PgImportDb) :
      (turns.foldl (endTurn cfg schedule) accounts).rows.length ≤
        accounts.rows.length + turns.length := by
    induction turns generalizing accounts with
    | nil => exact le_refl _
    | cons turn turns ih =>
        have hturn : (endTurn cfg schedule accounts turn).rows.length ≤
            accounts.rows.length + 1 := by
          unfold endTurn
          cases turnRow cfg schedule turn with
          | none => exact Nat.le_succ _
          | some stored => exact length_storeTurnRow accounts stored
        rw [List.foldl_cons, List.length_cons]
        exact (ih _).trans (by omega)
  exact hfold db.accounts

end PgVaultDb

/-! ## The limit -/

theorem le_max_cap {before after limit batch cap : Nat} (hafter : after ≤ before + batch)
    (hbatch : batch ≤ limit) (hlimit : limit ≤ cap - before) : after ≤ max before cap := by
  omega

theorem OAuthStore.activationLimit_le (s : OAuthStore) (limits : VaultLimits) (now : DateTime) :
    s.activationLimit limits now ≤ limits.runtimePoolCap - s.accounts.length := by
  unfold OAuthStore.activationLimit
  dsimp only
  split_ifs <;> omega

theorem PgVaultDb.activationLimit_le (db : PgVaultDb) (limits : VaultLimits) :
    db.activationLimit limits ≤ limits.runtimePoolCap - db.accounts.rows.length := by
  unfold PgVaultDb.activationLimit
  dsimp only
  split_ifs <;> omega

/-! ## The order of the records -/

/-- The order in which the memory takes records. -/
def ByPriority (a b : OAuthRefreshTokenVaultRecord) : Prop :=
  comesFirst (fun r => oauthVaultActivationPriority r.status) a b = true

theorem byPriority_iff {a b : OAuthRefreshTokenVaultRecord} :
    ByPriority a b ↔
      oauthVaultActivationPriority a.status < oauthVaultActivationPriority b.status ∨
        oauthVaultActivationPriority a.status = oauthVaultActivationPriority b.status ∧
          (a.createdAt < b.createdAt ∨ a.createdAt = b.createdAt ∧ a.id.text ≤ b.id.text) := by
  simp [ByPriority, comesFirst]

theorem byPriority_iff_of_le {a b : OAuthRefreshTokenVaultRecord}
    (hage : a.createdAt ≤ b.createdAt) :
    ByPriority a b ↔
      oauthVaultActivationPriority a.status ≤ oauthVaultActivationPriority b.status ∧
        (oauthVaultActivationPriority a.status = oauthVaultActivationPriority b.status →
          a.createdAt = b.createdAt → a.id.text ≤ b.id.text) := by
  rw [byPriority_iff]
  constructor
  · rintro (hless | ⟨hsame, hyounger | ⟨hequal, hid⟩⟩)
    · exact ⟨hless.le, fun h => absurd h hless.ne⟩
    · exact ⟨hsame.le, fun _ h => absurd h (ne_of_lt hyounger)⟩
    · exact ⟨hsame.le, fun _ _ => hid⟩
  · intro h
    rcases h.1.lt_or_eq with hless | hsame
    · exact Or.inl hless
    · refine Or.inr ⟨hsame, ?_⟩
      rcases lt_or_eq_of_le hage with hyounger | hequal
      · exact Or.inl hyounger
      · exact Or.inr ⟨hequal, h.2 hsame hequal⟩

theorem ByPriority.activatesBefore {a b : OAuthRefreshTokenVaultRecord} (h : ByPriority a b) :
    ActivatesBefore a b := by
  rcases byPriority_iff.1 h with hless | ⟨hsame, hyounger | ⟨hequal, -⟩⟩
  · exact Or.inl hless
  · exact Or.inr ⟨hsame, le_of_lt hyounger⟩
  · exact Or.inr ⟨hsame, hequal.le⟩

theorem ByPriority.id_eq {a b : OAuthRefreshTokenVaultRecord} (h : ByPriority a b)
    (h' : ByPriority b a) : a.id = b.id := by
  rw [byPriority_iff] at h h'
  rcases h with hless | ⟨hsame, htie⟩
  · rcases h' with hless' | ⟨hsame', -⟩
    · exact absurd hless' hless.asymm
    · exact absurd hsame' hless.ne'
  · rcases h' with hless' | ⟨-, htie'⟩
    · exact absurd hsame hless'.ne'
    · rcases htie with hyounger | ⟨hequal, hid⟩
      · rcases htie' with hyounger' | ⟨hequal', -⟩
        · exact absurd hyounger' (lt_asymm hyounger)
        · exact absurd hequal' (ne_of_gt hyounger)
      · rcases htie' with hyounger' | ⟨-, hid'⟩
        · exact absurd hequal (ne_of_gt hyounger')
        · exact congrArg Uuid.mk (le_antisymm hid hid')

theorem ByPriority.total (a b : OAuthRefreshTokenVaultRecord) :
    ByPriority a b ∨ ByPriority b a := by
  rw [byPriority_iff, byPriority_iff]
  rcases lt_trichotomy (oauthVaultActivationPriority a.status)
      (oauthVaultActivationPriority b.status) with hless | hsame | hgreater
  · exact Or.inl (Or.inl hless)
  · rcases lt_trichotomy (a.createdAt : Int) b.createdAt with hyounger | hequal | holder
    · exact Or.inl (Or.inr ⟨hsame, Or.inl hyounger⟩)
    · rcases le_total a.id.text b.id.text with hid | hid
      · exact Or.inl (Or.inr ⟨hsame, Or.inr ⟨hequal, hid⟩⟩)
      · exact Or.inr (Or.inr ⟨hsame.symm, Or.inr ⟨hequal.symm, hid⟩⟩)
    · exact Or.inr (Or.inr ⟨hsame.symm, Or.inl holder⟩)
  · exact Or.inr (Or.inl hgreater)

theorem ByPriority.trans {a b c : OAuthRefreshTokenVaultRecord} (h : ByPriority a b)
    (h' : ByPriority b c) : ByPriority a c := by
  rw [byPriority_iff] at h h' ⊢
  rcases h with hless | ⟨hsame, htie⟩
  · rcases h' with hless' | ⟨hsame', -⟩
    · exact Or.inl (hless.trans hless')
    · exact Or.inl (hsame' ▸ hless)
  · rcases h' with hless' | ⟨hsame', htie'⟩
    · exact Or.inl (hsame ▸ hless')
    · refine Or.inr ⟨hsame.trans hsame', ?_⟩
      rcases htie with hyounger | ⟨hequal, hid⟩
      · rcases htie' with hyounger' | ⟨hequal', -⟩
        · exact Or.inl (lt_trans hyounger hyounger')
        · exact Or.inl (hequal' ▸ hyounger)
      · rcases htie' with hyounger' | ⟨hequal', hid'⟩
        · exact Or.inl (hequal ▸ hyounger')
        · exact Or.inr ⟨hequal.trans hequal', hid.trans hid'⟩

/-! ## The choice -/

namespace OAuthStore

variable (cfg : OAuthConfig) (limits : VaultLimits) (s : OAuthStore) (call : ActivationCall)

/-- The memory takes the first records in its order. -/
theorem isFirst_loadedBatch :
    Selections.IsFirst ByPriority
      ((s.reprobed cfg limits call).activationLimit limits call.countedAt)
      ((s.reprobed cfg limits call).vault.filter (isActivationCandidate call.loadedAt))
      (s.loadedBatch cfg limits call) := by
  refine Selections.isFirst_take_of_pairwise ?_ (List.mergeSort_perm _ _)
  have htrans (a b c : OAuthRefreshTokenVaultRecord)
      (hab : comesFirst (fun r => oauthVaultActivationPriority r.status) a b = true)
      (hbc : comesFirst (fun r => oauthVaultActivationPriority r.status) b c = true) :
      comesFirst (fun r => oauthVaultActivationPriority r.status) a c = true :=
    ByPriority.trans hab hbc
  have htotal (a b : OAuthRefreshTokenVaultRecord) :
      (comesFirst (fun r => oauthVaultActivationPriority r.status) a b ||
        comesFirst (fun r => oauthVaultActivationPriority r.status) b a) = true := by
    rw [Bool.or_eq_true]
    exact ByPriority.total a b
  exact List.pairwise_mergeSort htrans htotal _

theorem length_activateOauthRefreshTokenVaultInner :
    (s.activateOauthRefreshTokenVaultInner cfg limits call).2.accounts.length ≤
      max s.accounts.length limits.runtimePoolCap := by
  have haccounts := accounts_reprobed cfg s limits call
  have hbatch : (s.loadedBatch cfg limits call).length ≤
      (s.reprobed cfg limits call).activationLimit limits call.countedAt := by
    rw [(isFirst_loadedBatch cfg limits s call).length]
    exact min_le_left _ _
  have hlimit := (s.reprobed cfg limits call).activationLimit_le limits call.countedAt
  rw [haccounts] at hlimit
  have hloop := Entries.loop_le
    (fun s candidate => s.activateCandidate cfg candidate (call.candidate candidate.id))
    (fun s : OAuthStore => s.accounts.length)
    (fun s candidate => length_activateCandidate cfg s candidate _)
    (s.loadedBatch cfg limits call) 0 (s.reprobed cfg limits call)
  rw [haccounts] at hloop
  exact le_max_cap hloop hbatch hlimit

end OAuthStore

/-- What a call does in both stores: each of them takes the first of the eligible records, they
take the same ones, and neither has more accounts afterwards than the cap allows, unless it had
them before. -/
structure PicksBest (cfg : OAuthConfig) (schedule : RefreshSchedule) (limits : VaultLimits)
    (s : OAuthStore) (call : ActivationCall) (db : PgVaultDb)
    (rows : List OAuthRefreshTokenVaultRecord) : Prop where
  memory : Selections.IsFirst ActivatesBefore
    ((s.reprobed cfg limits call).activationLimit limits call.countedAt)
    (db.vault.filter (isActivationCandidate call.loadedAt)) (s.loadedBatch cfg limits call)
  database : Selections.IsFirst ActivatesBefore (db.activationLimit limits)
    (db.vault.filter (isActivationCandidate call.loadedAt)) (db.activationBatch limits rows)
  alike : (db.activationBatch limits rows).Perm (s.loadedBatch cfg limits call)
  memoryCap : (s.activateOauthRefreshTokenVaultInner cfg limits call).2.accounts.length ≤
    max s.accounts.length limits.runtimePoolCap
  databaseCap : ∀ turns : List PgTurn,
    (turns.map (·.candidate)).Perm (db.activationBatch limits rows) →
      (db.accountsAfter cfg schedule turns).rows.length ≤
        max db.accounts.rows.length limits.runtimePoolCap

/-- No record that is cut off has a better status than one that is taken, and of records with one
status and age those with the smaller ids are taken. -/
def CutsBehind (rows : List OAuthRefreshTokenVaultRecord) (limit : Nat) : Prop :=
  ∀ a ∈ rows.take limit, ∀ b ∈ rows.drop limit,
    oauthVaultActivationPriority a.status ≤ oauthVaultActivationPriority b.status ∧
      (oauthVaultActivationPriority a.status = oauthVaultActivationPriority b.status →
        a.createdAt = b.createdAt → a.id.text ≤ b.id.text)

theorem cutsBehind_iff {rows : List OAuthRefreshTokenVaultRecord} {limit : Nat}
    (hage : rows.Pairwise fun a b => a.createdAt ≤ b.createdAt) :
    CutsBehind rows limit ↔ ∀ a ∈ rows.take limit, ∀ b ∈ rows.drop limit, ByPriority a b := by
  rw [← List.take_append_drop limit rows, List.pairwise_append] at hage
  have hiff (a b) (ha : a ∈ rows.take limit) (hb : b ∈ rows.drop limit) :=
    byPriority_iff_of_le (hage.2.2 a ha b hb)
  exact ⟨fun h a ha b hb => (hiff a b ha hb).2 (h a ha b hb),
    fun h a ha b hb => (hiff a b ha hb).1 (h a ha b hb)⟩

theorem separates_eligible {vault : List OAuthRefreshTokenVaultRecord}
    (hkeyed : (vault.map (·.id)).Nodup) (now : DateTime) :
    Selections.Separates ByPriority (vault.filter (isActivationCandidate now)) := by
  intro a ha b hb hab hba
  exact List.inj_on_of_nodup_map hkeyed (List.mem_of_mem_filter ha) (List.mem_of_mem_filter hb)
    (hab.id_eq hba)

theorem PgVaultDb.length_le_max_cap (cfg : OAuthConfig) (schedule : RefreshSchedule)
    (limits : VaultLimits) (db : PgVaultDb) {rows : List OAuthRefreshTokenVaultRecord}
    {turns : List PgTurn}
    (hturns : (turns.map (·.candidate)).Perm (db.activationBatch limits rows)) :
    (db.accountsAfter cfg schedule turns).rows.length ≤
      max db.accounts.rows.length limits.runtimePoolCap := by
  have hbatch : turns.length ≤ db.activationLimit limits := by
    rw [← List.length_map, hturns.length_eq]
    unfold PgVaultDb.activationBatch PgVaultDb.loadOauthVaultActivationCandidates
    rw [List.length_mergeSort]
    exact List.length_take_le _ _
  exact le_max_cap (db.length_accountsAfter cfg schedule turns) hbatch
    (db.activationLimit_le limits)

/-- Both stores take the best records exactly when their limits leave as many of them, and the
oldest records, which the database loads, are not worse than those that it cuts off. -/
theorem picksBest_iff (cfg : OAuthConfig) (schedule : RefreshSchedule) (limits : VaultLimits)
    (s : OAuthStore) (call : ActivationCall) (db : PgVaultDb)
    (hcontent : db.vault.Perm (s.reprobed cfg limits call).vault)
    {rows : List OAuthRefreshTokenVaultRecord} (hrows : db.ReturnsByAge call.loadedAt rows) :
    PicksBest cfg schedule limits s call db rows ↔
      min (db.activationLimit limits) rows.length =
          min ((s.reprobed cfg limits call).activationLimit limits call.countedAt) rows.length ∧
        CutsBehind rows (db.activationLimit limits) := by
  have heligible : ((s.reprobed cfg limits call).vault.filter
      (isActivationCandidate call.loadedAt)).Perm
        (db.vault.filter (isActivationCandidate call.loadedAt)) :=
    hcontent.symm.filter _
  have hnd : (db.vault.filter (isActivationCandidate call.loadedAt)).Nodup :=
    (List.Nodup.of_map _ db.keyed).filter _
  have hmemory := (OAuthStore.isFirst_loadedBatch cfg limits s call).congr_items heligible
  have hdatabase : (db.activationBatch limits rows).Perm
      (rows.take (db.activationLimit limits)) := List.mergeSort_perm _ _
  have halike : (db.activationBatch limits rows).Perm (s.loadedBatch cfg limits call) ↔
      min (db.activationLimit limits) rows.length =
          min ((s.reprobed cfg limits call).activationLimit limits call.countedAt) rows.length ∧
        CutsBehind rows (db.activationLimit limits) := by
    rw [cutsBehind_iff hrows.byAge, hrows.perm.length_eq,
      ← Selections.perm_take_iff hnd (separates_eligible db.keyed _) hmemory hrows.perm]
    exact ⟨hdatabase.symm.trans, hdatabase.trans⟩
  rw [← halike]
  constructor
  · intro h
    exact h.alike
  · intro hsame
    -- the first records in the order of the memory are the first by status and age
    have hfirst := hmemory.mono fun a b => ByPriority.activatesBefore
    have hlimits : min (db.activationLimit limits)
        (db.vault.filter (isActivationCandidate call.loadedAt)).length =
          min ((s.reprobed cfg limits call).activationLimit limits call.countedAt)
            (db.vault.filter (isActivationCandidate call.loadedAt)).length := by
      rw [← hrows.perm.length_eq]
      exact (halike.1 hsame).1
    exact {
      memory := hfirst
      database := (hfirst.of_perm hsame).congr_limit hlimits
      alike := hsame
      memoryCap := OAuthStore.length_activateOauthRefreshTokenVaultInner cfg limits s call
      databaseCap := fun turns hturns => db.length_le_max_cap cfg schedule limits hturns }

/-! ### A younger record that is ready -/

namespace OAuthStore

open PgOAuthDb (promptSchedule)

/-- A record that waits for a refresh, and a younger one that could be activated at once. -/
def starvedVault : List OAuthRefreshTokenVaultRecord :=
  [queuedAs "a" none 0, { queuedAs "b" (some "access-b") 1 with status := .ready }]

def starvedDb : PgVaultDb where
  accounts := ⟨[], List.nodup_nil⟩
  vault := starvedVault
  keyed := by decide

theorem reprobed_starvedVault (limits : VaultLimits) :
    (vaultOf starvedVault).reprobed plainConfig limits answeredCall = vaultOf starvedVault :=
  reprobed_vaultOf plainConfig limits (by decide +kernel)

theorem returnsByAge_starvedVault : starvedDb.ReturnsByAge answeredCall.loadedAt starvedVault where
  perm := by
    have hall :
        starvedVault.filter (isActivationCandidate answeredCall.loadedAt) = starvedVault := by
      decide +kernel
    rw [show starvedDb.vault = starvedVault from rfl, hall]
  byAge := by
    simp [starvedVault, queuedAs]

/-- A record that could be activated at once, and younger ones that wait for a refresh. -/
def seniorVault : List OAuthRefreshTokenVaultRecord :=
  [{ queuedAs "a" (some "access-a") 0 with status := .ready }, queuedAs "b" none 1,
    queuedAs "c" none 1]

def seniorDb : PgVaultDb where
  accounts := ⟨[], List.nodup_nil⟩
  vault := seniorVault
  keyed := by decide

/-- With room for two records, both stores take the older two and leave the third. -/
theorem seniorVault_picksBest :
    PicksBest plainConfig promptSchedule ⟨2, 10, 10⟩ (vaultOf seniorVault) answeredCall seniorDb
      seniorVault := by
  have hreprobed := reprobed_vaultOf plainConfig ⟨2, 10, 10⟩
    (show seniorVault.filter (isReprobeCandidate answeredCall.startedAt) = [] by decide +kernel)
  have hall : seniorVault.filter (isActivationCandidate answeredCall.loadedAt) = seniorVault := by
    decide +kernel
  refine (picksBest_iff plainConfig promptSchedule ⟨2, 10, 10⟩ (vaultOf seniorVault) answeredCall
    seniorDb ?_ ⟨?_, ?_⟩).2 ⟨?_, ?_⟩
  · rw [hreprobed]
    exact List.Perm.refl _
  · exact hall.symm ▸ List.Perm.refl seniorVault
  · simp [seniorVault, queuedAs]
  · rw [hreprobed]
    decide +kernel
  · unfold CutsBehind
    decide +kernel

/-- With room for one record, the database takes the older one and leaves the ready one out. -/
theorem starvedVault_not_picksBest :
    starvedDb.vault.Perm
        ((vaultOf starvedVault).reprobed plainConfig ⟨1, 10, 10⟩ answeredCall).vault ∧
      starvedDb.ReturnsByAge answeredCall.loadedAt starvedVault ∧
      ¬ PicksBest plainConfig promptSchedule ⟨1, 10, 10⟩ (vaultOf starvedVault) answeredCall
        starvedDb starvedVault := by
  refine ⟨?_, returnsByAge_starvedVault, fun h => ?_⟩
  · rw [reprobed_starvedVault]
    exact List.Perm.refl _
  · have hbatch : (starvedVault.take 1).Perm (starvedDb.activationBatch ⟨1, 10, 10⟩ starvedVault) :=
      (List.mergeSort_perm _ _).symm
    have hfirst := (Selections.isFirst_take_iff returnsByAge_starvedVault.perm).1
      (h.database.of_perm hbatch)
    have hbefore := hfirst _ (List.mem_singleton_self _) _ (List.mem_singleton_self _)
    simp [ActivatesBefore, queuedAs, oauthVaultActivationPriority] at hbefore

end OAuthStore

end CodexPool
