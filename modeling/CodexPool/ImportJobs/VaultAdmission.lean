import CodexPool.ControlPlane.OAuthVault
import CodexPool.ImportJobs.RunJob

/-!
# Imports of refresh tokens

An item with a refresh token is queued into the vault, the record of the token is probed, and the
item then looks up what has become of it. It does so among the records as they are shown to
operators, which tell nothing of the token: by the label, the workspace and whether there is an
access token, and of these the record that was updated last. A record that has failed for good is
deleted, and the item with it.
-/

namespace CodexPool

/-- The label that `normalize_record` gives to a record. -/
def derivedLabel (shortHash : String → String)
    (label email chatgptAccountId refreshToken accessToken : Option String) : String :=
  (((Text.trimmed? label).or
    ((Text.trimmed? email).map fun email => "oauth-" ++ Text.toAsciiLowercase email)).or
    (chatgptAccountId.map ("oauth-" ++ ·))).getD
      ("oauth-" ++ shortHash ((refreshToken.or accessToken).getD "empty"))

/-! ## Records as operators see them -/

structure OAuthInventoryRecord where
  id : Uuid
  label : String
  chatgptAccountId : Option String
  vaultStatus : OAuthVaultRecordStatus
  hasAccessTokenFallback : Bool
  admissionSource : Option String
  admissionErrorCode : Option String
  admissionErrorMessage : Option String
  failureStage : Option OAuthInventoryFailureStage
  attemptCount : Nat
  transientRetryCount : Nat
  nextRetryAt : Option DateTime
  retryable : Bool
  terminalReason : Option String
  createdAt : DateTime
  updatedAt : DateTime

def OAuthRefreshTokenVaultRecord.inventoryRecord (record : OAuthRefreshTokenVaultRecord) :
    OAuthInventoryRecord where
  id := record.id
  label := record.label
  chatgptAccountId := record.chatgptAccountId
  vaultStatus := record.status
  hasAccessTokenFallback := record.fallbackAccessTokenEnc.isSome
  admissionSource := record.admissionSource
  admissionErrorCode := record.admissionErrorCode
  admissionErrorMessage := record.admissionErrorMessage
  failureStage := record.failureStage
  attemptCount := record.attemptCount
  transientRetryCount := record.transientRetryCount
  nextRetryAt := record.nextRetryAt
  retryable := record.retryable
  terminalReason := record.terminalReason
  createdAt := record.createdAt
  updatedAt := record.updatedAt

namespace OAuthInventoryRecord

/-- Records are compared by a time, and then by their ids. -/
def comesBefore (time : OAuthInventoryRecord → DateTime) (a b : OAuthInventoryRecord) : Bool :=
  decide (time a < time b) || decide (time a = time b) && decide (a.id.text ≤ b.id.text)

/-- The last of the largest records. -/
def latest : List OAuthInventoryRecord → Option OAuthInventoryRecord
  | [] => none
  | record :: records =>
    match latest records with
    | none => some record
    | some last => if record.comesBefore updatedAt last then some last else some record

/-- What the lookup takes for the record of a request. -/
def isFor (req : ImportOAuthRefreshTokenRequest) (record : OAuthInventoryRecord) : Bool :=
  record.label = req.label && record.chatgptAccountId = req.chatgptAccountId &&
    record.hasAccessTokenFallback = (Text.trimmed? req.fallbackAccessToken).isSome

end OAuthInventoryRecord

def OAuthStore.oauthInventoryRecordsInner (s : OAuthStore) : List OAuthInventoryRecord :=
  (s.vault.map (·.inventoryRecord)).insertionSort
    fun a b => a.comesBefore OAuthInventoryRecord.createdAt b = true

def findInventoryAdmissionForRequest (s : OAuthStore) (req : ImportOAuthRefreshTokenRequest) :
    Option OAuthInventoryRecord :=
  OAuthInventoryRecord.latest (s.oauthInventoryRecordsInner.filter (·.isFor req))

def shouldRejectTerminalInventoryAdmission (record : OAuthInventoryRecord) : Bool :=
  if record.retryable || record.vaultStatus ≠ .failed then false
  else
    ["refresh_token_reused", "refresh_token_revoked", "invalid_refresh_token",
      "missing_client_id", "unauthorized_client"].contains
      (Text.toAsciiLowercase ((record.terminalReason.or record.admissionErrorCode).getD ""))

def rejectedCode (record : OAuthInventoryRecord) : String :=
  (record.terminalReason.or record.admissionErrorCode).getD "invalid_refresh_token"

def importedSuccess (req : ImportOAuthRefreshTokenRequest) (created : Bool)
    (admission : Option OAuthInventoryRecord) : ImportTaskSuccess where
  created := created
  accountId := none
  chatgptAccountId := req.chatgptAccountId
  admissionStatus := admission.map (·.vaultStatus)
  admissionSource := admission.bind (·.admissionSource)
  admissionReason := admission.bind fun record =>
    record.admissionErrorCode.or record.admissionErrorMessage
  failureStage := admission.bind (·.failureStage)
  attemptCount := (admission.map (·.attemptCount)).getD 0
  transientRetryCount := (admission.map (·.transientRetryCount)).getD 0
  nextRetryAt := admission.bind (·.nextRetryAt)
  retryable := (admission.map (·.retryable)).getD false
  terminalReason := admission.bind (·.terminalReason)

/-! ## Queueing -/

namespace ImportBackend

variable (cfg : OAuthConfig) (backend : ImportBackend)

/-- The database trims what it stores. -/
def storedRequest (req : ImportOAuthRefreshTokenRequest) : ImportOAuthRefreshTokenRequest :=
  match backend with
  | postgres =>
    { req with
      refreshToken := Text.trim req.refreshToken
      chatgptAccountId := Text.trimmed? req.chatgptAccountId }
  | _ => req

def tokenSha256 (req : ImportOAuthRefreshTokenRequest) : String :=
  cfg.refreshTokenSha256 (backend.storedRequest req).refreshToken

/-- The row of a token that is queued once more keeps what the request does not say. -/
def merged (old new : OAuthRefreshTokenVaultRecord) : OAuthRefreshTokenVaultRecord :=
  { new with
    id := old.id
    email := old.email
    fallbackAccessTokenEnc := new.fallbackAccessTokenEnc.or old.fallbackAccessTokenEnc
    fallbackTokenExpiresAt := new.fallbackTokenExpiresAt.or old.fallbackTokenExpiresAt
    chatgptAccountId := new.chatgptAccountId.or old.chatgptAccountId
    chatgptPlanType := new.chatgptPlanType.or old.chatgptPlanType
    sourceType := new.sourceType.or old.sourceType
    createdAt := old.createdAt }

end ImportBackend

/-! ## Items at work -/

/-- How far `execute_import_with_retry` has come with a refresh token. -/
inductive RefreshImport where
  | idle
  | queueing (req : ImportOAuthRefreshTokenRequest) (existing : Option (Uuid × DateTime))
      (now : DateTime)
  | queued (req : ImportOAuthRefreshTokenRequest) (created : Bool) (recordId : Option Uuid)
  | probing (req : ImportOAuthRefreshTokenRequest) (created : Bool) (recordId : Uuid)
      (call : ProbeCall)
  | probed (req : ImportOAuthRefreshTokenRequest) (created : Bool)
  | rejecting (req : ImportOAuthRefreshTokenRequest) (record : OAuthInventoryRecord)
  | ended (outcome : Result ImportTaskSuccess)

structure VaultImports where
  store : OAuthStore
  items : Nat → RefreshImport

inductive VaultImportOp where
  | queue (item : Nat) (req : ImportOAuthRefreshTokenRequest) (now : DateTime)
  | insert (item : Nat) (newId : Uuid)
  | probe (item : Nat) (checkedAt : DateTime)
  | answer (item : Nat) (answer : ProbeAnswer)
  | judge (item : Nat)
  | reject (item : Nat)
  | markFailed (recordIds : List Uuid) (reason : Option String) (now : DateTime)
  | restore (recordIds : List Uuid) (now : DateTime)
  | delete (recordIds : List Uuid)
  | purge (now : DateTime)

namespace VaultImports

variable (cfg : OAuthConfig) (backend : ImportBackend) (w : VaultImports)

def setItem (item : Nat) (phase : RefreshImport) : VaultImports :=
  { w with items := fun other => if other = item then phase else w.items other }

def setStore (store : OAuthStore) : VaultImports := { w with store := store }

/-- The store in memory reads the id of the token's record before it writes the record. -/
def queue (item : Nat) (req : ImportOAuthRefreshTokenRequest) (now : DateTime) : VaultImports :=
  match cfg.credentialCipher, backend with
  | none, _ =>
    w.setItem item (.ended
      (.error "oauth credential encryption key is missing: set CREDENTIALS_ENCRYPTION_KEY"))
  | some _, .postgres =>
    if Text.trim req.refreshToken = "" then
      w.setItem item (.ended (.error "refresh token is empty"))
    else w.setItem item (.queueing req none now)
  | some _, _ =>
    w.setItem item (.queueing req
      ((w.store.vault.find? (·.refreshTokenSha256 = backend.tokenSha256 cfg req)).map
        fun record => (record.id, record.createdAt)) now)

def writtenRecord (cipher : CredentialCipher) (req : ImportOAuthRefreshTokenRequest)
    (existing : Option (Uuid × DateTime)) (now : DateTime) (newId : Uuid) :
    Result (OAuthRefreshTokenVaultRecord × Bool) := do
  match backend with
  | .postgres => do
    let new ← OAuthStore.queuedRecord cfg cipher (backend.storedRequest req) newId now now
    match w.store.vault.find? (·.refreshTokenSha256 = backend.tokenSha256 cfg req) with
    | some old => pure (ImportBackend.merged old new, false)
    | none => pure (new, true)
  | _ => do
    let record ← OAuthStore.queuedRecord cfg cipher req ((existing.map (·.1)).getD newId)
      ((existing.map (·.2)).getD now) now
    pure (record, existing.isNone)

def insert (item : Nat) (req : ImportOAuthRefreshTokenRequest)
    (existing : Option (Uuid × DateTime)) (now : DateTime) (newId : Uuid) : VaultImports :=
  match cfg.credentialCipher with
  | none => w
  | some cipher =>
    match w.writtenRecord cfg backend cipher req existing now newId with
    | .error e => w.setItem item (.ended (.error e))
    | .ok (record, created) =>
      (w.setStore { w.store with
        vault := Keyed.upsertBy OAuthRefreshTokenVaultRecord.id record w.store.vault }).setItem item
        (.queued req created (if backend = .postgres then some record.id else none))

/-- The store in memory looks the record up by the token once more. -/
def probedId (req : ImportOAuthRefreshTokenRequest) (recordId : Option Uuid) : Option Uuid :=
  recordId.or (w.store.oauthVaultRecordIdForRequest cfg req)

def probe (item : Nat) (req : ImportOAuthRefreshTokenRequest) (created : Bool)
    (recordId : Option Uuid) (checkedAt : DateTime) : VaultImports :=
  match (w.probedId cfg req recordId).bind w.store.vaultRecord? with
  | none => w.setItem item (.probed req created)
  | some record =>
    match startProbe cfg record checkedAt with
    | .inl result =>
      (w.setStore (w.store.updateOauthVaultAdmissionResult record.id result)).setItem item
        (.probed req created)
    | .inr call => w.setItem item (.probing req created record.id call)

def answer (item : Nat) (req : ImportOAuthRefreshTokenRequest) (created : Bool) (recordId : Uuid)
    (call : ProbeCall) (answer : ProbeAnswer) : VaultImports :=
  (w.setStore
    (w.store.updateOauthVaultAdmissionResult recordId (probeResult cfg call answer))).setItem
    item (.probed req created)

def judge (item : Nat) (req : ImportOAuthRefreshTokenRequest) (created : Bool) : VaultImports :=
  match findInventoryAdmissionForRequest w.store req with
  | none => w.setItem item (.ended (.ok (importedSuccess req created none)))
  | some record =>
    if shouldRejectTerminalInventoryAdmission record then w.setItem item (.rejecting req record)
    else w.setItem item (.ended (.ok (importedSuccess req created (some record))))

def reject (item : Nat) (record : OAuthInventoryRecord) : VaultImports :=
  match w.store.deleteOauthInventoryRecordInner record.id with
  | .ok store => (w.setStore store).setItem item (.ended (.error (rejectedCode record)))
  | .error e => w.setItem item (.ended (.error e))

def stepItem (item : Nat) : RefreshImport → VaultImportOp → VaultImports
  | .idle, .queue _ req now => w.queue cfg backend item req now
  | .queueing req existing now, .insert _ newId => w.insert cfg backend item req existing now newId
  | .queued req created recordId, .probe _ checkedAt =>
    w.probe cfg item req created recordId checkedAt
  | .probing req created recordId call, .answer _ answer =>
    w.answer cfg item req created recordId call answer
  | .probed req created, .judge _ => w.judge item req created
  | .rejecting _ record, .reject _ => w.reject item record
  | _, _ => w

def step (op : VaultImportOp) : VaultImports :=
  match op with
  | .queue item _ _ | .insert item _ | .probe item _ | .answer item _ | .judge item
  | .reject item => w.stepItem cfg backend item (w.items item) op
  | .markFailed recordIds reason now =>
    w.setStore (w.store.markOauthInventoryRecordsFailedInner cfg recordIds reason now)
  | .restore recordIds now => w.setStore (w.store.restoreOauthInventoryRecordsInner recordIds now)
  | .delete recordIds => w.setStore (w.store.deleteOauthInventoryRecordsInner recordIds)
  | .purge now => w.setStore (w.store.purgeDueOauthInventoryRecordsInner cfg now)

def start (store : OAuthStore) : VaultImports where
  store := store
  items := fun _ => .idle

end VaultImports

/-! ## The lookup -/

namespace OAuthInventoryRecord

variable {time : OAuthInventoryRecord → DateTime} {a b c : OAuthInventoryRecord}

theorem comesBefore_iff : a.comesBefore time b = true ↔
    time a < time b ∨ time a = time b ∧ a.id.text ≤ b.id.text := by
  rw [comesBefore, Bool.or_eq_true, Bool.and_eq_true, decide_eq_true_eq, decide_eq_true_eq,
    decide_eq_true_eq]

theorem comesBefore_total (a b : OAuthInventoryRecord) :
    a.comesBefore time b = true ∨ b.comesBefore time a = true := by
  rw [comesBefore_iff, comesBefore_iff]
  rcases lt_trichotomy (time a) (time b) with hlt | heq | hgt
  · exact .inl (.inl hlt)
  · exact (String.le_total a.id.text b.id.text).imp (fun h => .inr ⟨heq, h⟩)
      fun h => .inr ⟨heq.symm, h⟩
  · exact .inr (.inl hgt)

theorem comesBefore_trans (hab : a.comesBefore time b = true) (hbc : b.comesBefore time c = true) :
    a.comesBefore time c = true := by
  rw [comesBefore_iff] at *
  rcases hab with hab | ⟨hab, hid⟩
  · rcases hbc with hbc | ⟨hbc, -⟩
    · exact .inl (hab.trans hbc)
    · exact .inl (hbc ▸ hab)
  · rcases hbc with hbc | ⟨hbc, hid'⟩
    · exact .inl (hab ▸ hbc)
    · exact .inr ⟨hab.trans hbc, String.le_trans hid hid'⟩

theorem id_eq_of_comesBefore (hab : a.comesBefore time b = true)
    (hba : b.comesBefore time a = true) : a.id = b.id := by
  rw [comesBefore_iff] at *
  have htext : a.id.text = b.id.text := by
    rcases hab with hab | ⟨hab, hid⟩
    · rcases hba with hba | ⟨hba, -⟩
      · exact absurd (hab.trans hba) (lt_irrefl _)
      · exact absurd hab (hba ▸ lt_irrefl _)
    · rcases hba with hba | ⟨-, hid'⟩
      · exact absurd hba (hab ▸ lt_irrefl _)
      · exact String.le_antisymm hid hid'
  exact congrArg Uuid.mk htext

theorem comesBefore_refl (a : OAuthInventoryRecord) : a.comesBefore time a = true :=
  (comesBefore_total a a).elim (fun h => h) fun h => h

theorem latest_eq_some {records : List OAuthInventoryRecord} {last : OAuthInventoryRecord}
    (h : latest records = some last) :
    last ∈ records ∧ ∀ record ∈ records, record.comesBefore updatedAt last = true := by
  induction records generalizing last with
  | nil => cases h
  | cons record records ih =>
      rw [latest] at h
      split at h
      · rename_i hnone
        have hnil : records = [] := by
          cases records with
          | nil => rfl
          | cons other others =>
              rw [latest] at hnone
              split at hnone
              · cases hnone
              · split at hnone <;> cases hnone
        rw [← Option.some.inj h, hnil]
        refine ⟨List.mem_cons_self, fun other hother => ?_⟩
        rw [List.mem_singleton.1 hother]
        exact comesBefore_refl record
      · rename_i later hlater
        rcases ih hlater with ⟨hmem, hall⟩
        split at h
        · rename_i hbefore
          rw [← Option.some.inj h]
          refine ⟨List.mem_cons_of_mem _ hmem, fun other hother => ?_⟩
          rcases List.mem_cons.1 hother with rfl | hother
          · exact hbefore
          · exact hall other hother
        · rename_i hbefore
          rw [← Option.some.inj h]
          have hafter := (comesBefore_total record later).resolve_left hbefore
          refine ⟨List.mem_cons_self, fun other hother => ?_⟩
          rcases List.mem_cons.1 hother with rfl | hother
          · exact comesBefore_refl other
          · exact comesBefore_trans (hall other hother) hafter

theorem isSome_latest {records : List OAuthInventoryRecord} {record : OAuthInventoryRecord}
    (h : record ∈ records) : (latest records).isSome = true := by
  cases records with
  | nil => cases h
  | cons other others =>
      rw [latest]
      split
      · rfl
      · split <;> rfl

end OAuthInventoryRecord

/-! ## Items and their own records -/

namespace RefreshImport

/-- The id of a record that the item is about to write or to delete. -/
def recordId? : RefreshImport → Option Uuid
  | queueing _ existing _ => existing.map (·.1)
  | rejecting _ record => some record.id
  | _ => none

/-- Each id belongs to one token, and the item works on ids of its own. -/
def IsOwned (owner : Uuid → String) (tokenSha256 : ImportOAuthRefreshTokenRequest → String) :
    RefreshImport → Prop
  | queueing req existing _ => ∀ id ∈ existing.map (·.1), owner id = tokenSha256 req
  | rejecting req record => owner record.id = tokenSha256 req
  | _ => True

end RefreshImport

namespace VaultImports

variable (cfg : OAuthConfig) (backend : ImportBackend) (w : VaultImports)

def IsOf (recordId : Uuid) (tokenSha256 : String) : Prop :=
  ∀ record ∈ w.store.vault, record.id = recordId → record.refreshTokenSha256 = tokenSha256

/-- An item that looks its record up finds the record of its own token if there is one and no
other, and an item deletes no record but its own. -/
def JudgesOwn : VaultImportOp → Prop
  | .judge item => ∀ req created, w.items item = .probed req created →
      (∀ record, findInventoryAdmissionForRequest w.store req = some record →
        w.IsOf record.id (backend.tokenSha256 cfg req)) ∧
      ((∃ record ∈ w.store.vault, record.refreshTokenSha256 = backend.tokenSha256 cfg req) →
        (findInventoryAdmissionForRequest w.store req).isSome = true)
  | .reject item => ∀ req record, w.items item = .rejecting req record →
      w.IsOf record.id (backend.tokenSha256 cfg req)
  | _ => True

/-- The record of the item's own token is like the request, and it was updated after all records
of other tokens that are. -/
def OwnIsLatest : VaultImportOp → Prop
  | .judge item => ∀ req created, w.items item = .probed req created →
      (∀ other ∈ w.store.vault, other.inventoryRecord.isFor req = true →
        other.refreshTokenSha256 ≠ backend.tokenSha256 cfg req →
          ∃ own ∈ w.store.vault, own.refreshTokenSha256 = backend.tokenSha256 cfg req ∧
            own.inventoryRecord.isFor req = true ∧
            other.inventoryRecord.comesBefore OAuthInventoryRecord.updatedAt
              own.inventoryRecord = true) ∧
      ((∃ own ∈ w.store.vault, own.refreshTokenSha256 = backend.tokenSha256 cfg req) →
        ∃ own ∈ w.store.vault, own.refreshTokenSha256 = backend.tokenSha256 cfg req ∧
          own.inventoryRecord.isFor req = true)
  | _ => True

/-- New ids are new. -/
def DrawsFresh : VaultImportOp → Prop
  | .insert _ newId => (∀ record ∈ w.store.vault, record.id ≠ newId) ∧
      ∀ item, (w.items item).recordId? ≠ some newId
  | _ => True

structure IsOwned (owner : Uuid → String) : Prop where
  vault : ∀ record ∈ w.store.vault, owner record.id = record.refreshTokenSha256
  items : ∀ item, (w.items item).IsOwned owner (backend.tokenSha256 cfg)

variable {cfg backend w}

theorem mem_inventoryRecords {record : OAuthInventoryRecord} :
    record ∈ w.store.oauthInventoryRecordsInner ↔
      ∃ r ∈ w.store.vault, r.inventoryRecord = record := by
  rw [OAuthStore.oauthInventoryRecordsInner, List.mem_insertionSort, List.mem_map]

variable {req : ImportOAuthRefreshTokenRequest}

theorem mem_candidates {r : OAuthRefreshTokenVaultRecord}
    (hr : r ∈ w.store.vault) (hfor : r.inventoryRecord.isFor req = true) :
    r.inventoryRecord ∈ w.store.oauthInventoryRecordsInner.filter (·.isFor req) :=
  List.mem_filter.2 ⟨mem_inventoryRecords.2 ⟨r, hr, rfl⟩, hfor⟩

theorem exists_of_found {record : OAuthInventoryRecord}
    (h : findInventoryAdmissionForRequest w.store req = some record) :
    ∃ r ∈ w.store.vault, r.inventoryRecord = record ∧ r.inventoryRecord.isFor req = true ∧
      ∀ other ∈ w.store.vault, other.inventoryRecord.isFor req = true →
        other.inventoryRecord.comesBefore OAuthInventoryRecord.updatedAt record = true := by
  rcases OAuthInventoryRecord.latest_eq_some h with ⟨hmem, hall⟩
  rcases List.mem_filter.1 hmem with ⟨hrecord, hfor⟩
  rcases mem_inventoryRecords.1 hrecord with ⟨r, hr, rfl⟩
  exact ⟨r, hr, rfl, hfor, fun other hother hlike => hall _ (mem_candidates hother hlike)⟩

theorem judge_iff {owner : Uuid → String} (h : w.IsOwned cfg backend owner) (item : Nat) :
    w.JudgesOwn cfg backend (.judge item) ↔ w.OwnIsLatest cfg backend (.judge item) := by
  rw [JudgesOwn, OwnIsLatest]
  apply forall_congr'
  intro req
  apply forall_congr'
  intro created
  apply imp_congr_right
  intro _
  constructor
  · rintro ⟨hfound, hsome⟩
    constructor
    · intro other hother hlike _
      rcases Option.isSome_iff_exists.1
        (OAuthInventoryRecord.isSome_latest (mem_candidates hother hlike)) with ⟨record, hrecord⟩
      rcases exists_of_found hrecord with ⟨own, hown, rfl, hownlike, hall⟩
      exact ⟨own, hown, hfound _ hrecord own hown rfl, hownlike, hall other hother hlike⟩
    · intro hown
      rcases Option.isSome_iff_exists.1 (hsome hown) with ⟨record, hrecord⟩
      rcases exists_of_found hrecord with ⟨own, hown, rfl, hownlike, -⟩
      exact ⟨own, hown, hfound _ hrecord own hown rfl, hownlike⟩
  · rintro ⟨hlatest, hown⟩
    constructor
    · intro record hrecord r hr hid
      rcases exists_of_found hrecord with ⟨last, hlast, rfl, hlike, hall⟩
      have hlastOwn : last.refreshTokenSha256 = backend.tokenSha256 cfg req := by
        by_contra hne
        rcases hlatest last hlast hlike hne with ⟨own, hown, hsha, hownlike, hbefore⟩
        have hsame := OAuthInventoryRecord.id_eq_of_comesBefore hbefore (hall own hown hownlike)
        apply hne
        rw [← h.vault last hlast, ← hsha, ← h.vault own hown]
        exact congrArg owner hsame
      rw [← hlastOwn, ← h.vault r hr, ← h.vault last hlast]
      exact congrArg owner hid
    · intro hexists
      rcases hown hexists with ⟨own, hmem, -, hlike⟩
      exact OAuthInventoryRecord.isSome_latest (mem_candidates hmem hlike)

/-! ## Steps -/

theorem queuedRecord_eq_ok {cipher : CredentialCipher}
    {recordId : Uuid} {createdAt now : DateTime} {record : OAuthRefreshTokenVaultRecord}
    (h : OAuthStore.queuedRecord cfg cipher req recordId createdAt now = .ok record) :
    record.id = recordId ∧ record.refreshTokenSha256 = cfg.refreshTokenSha256 req.refreshToken := by
  simp only [OAuthStore.queuedRecord, Result.bind_eq_ok] at h
  rcases h with ⟨fallback, -, token, -, hrecord⟩
  rw [← Except.ok.inj hrecord]
  exact ⟨rfl, rfl⟩

/-- The record that is written holds the token of the request, under the id that was read, the id
of a record of the token, or the new one. -/
theorem writtenRecord_eq_ok {cipher : CredentialCipher}
    {existing : Option (Uuid × DateTime)} {now : DateTime} {newId : Uuid}
    {record : OAuthRefreshTokenVaultRecord} {created : Bool}
    (h : w.writtenRecord cfg backend cipher req existing now newId = .ok (record, created)) :
    record.refreshTokenSha256 = backend.tokenSha256 cfg req ∧
      (record.id = newId ∨ record.id ∈ existing.map (·.1) ∨
        ∃ old ∈ w.store.vault, record.id = old.id ∧
          old.refreshTokenSha256 = backend.tokenSha256 cfg req) := by
  have hmemory (hwritten : OAuthStore.queuedRecord cfg cipher req
      ((existing.map (·.1)).getD newId) ((existing.map (·.2)).getD now) now = .ok record)
      (hreq : backend.storedRequest req = req) :
      record.refreshTokenSha256 = backend.tokenSha256 cfg req ∧
        (record.id = newId ∨ record.id ∈ existing.map (·.1) ∨
          ∃ old ∈ w.store.vault, record.id = old.id ∧
            old.refreshTokenSha256 = backend.tokenSha256 cfg req) := by
    rcases queuedRecord_eq_ok hwritten with ⟨hid, hsha⟩
    rw [ImportBackend.tokenSha256, hreq]
    refine ⟨hsha, ?_⟩
    cases existing with
    | none => exact .inl hid
    | some found => exact .inr (.inl (hid ▸ rfl))
  unfold writtenRecord at h
  cases backend with
  | postgres =>
      simp only [Result.bind_eq_ok] at h
      rcases h with ⟨new, hnew, h⟩
      rcases queuedRecord_eq_ok hnew with ⟨hid, hsha⟩
      split at h
      · rename_i old hold
        rw [← (Prod.mk.inj (Except.ok.inj h)).1]
        have hmatch := List.find?_some hold
        rw [decide_eq_true_eq] at hmatch
        exact ⟨hsha, .inr (.inr ⟨old, List.mem_of_find?_eq_some hold, rfl, hmatch⟩)⟩
      · rw [← (Prod.mk.inj (Except.ok.inj h)).1]
        exact ⟨hsha, .inl hid⟩
  | inMemory | sqlite =>
      simp only [Result.bind_eq_ok] at h
      rcases h with ⟨new, hnew, h⟩
      rw [(Prod.mk.inj (Except.ok.inj h)).1] at hnew
      exact hmemory hnew rfl

namespace IsOwned

variable {owner : Uuid → String} (h : w.IsOwned cfg backend owner)

include h

theorem setItem (item : Nat) {phase : RefreshImport}
    (hphase : phase.IsOwned owner (backend.tokenSha256 cfg)) :
    (w.setItem item phase).IsOwned cfg backend owner where
  vault := h.vault
  items := by
    intro other
    change (if other = item then phase else w.items other).IsOwned _ _
    split
    · exact hphase
    · exact h.items other

theorem setStore {store : OAuthStore} (hsame : ∀ record' ∈ store.vault,
    ∃ record ∈ w.store.vault, record'.id = record.id ∧
      record'.refreshTokenSha256 = record.refreshTokenSha256) :
    (w.setStore store).IsOwned cfg backend owner where
  vault := by
    intro record' hmem
    rcases hsame record' hmem with ⟨record, hrecord, hid, hsha⟩
    rw [hid, hsha]
    exact h.vault record hrecord
  items := h.items

theorem map {f : OAuthRefreshTokenVaultRecord → OAuthRefreshTokenVaultRecord}
    (hid : ∀ record, (f record).id = record.id)
    (hsha : ∀ record, (f record).refreshTokenSha256 = record.refreshTokenSha256) :
    (w.setStore { w.store with vault := w.store.vault.map f }).IsOwned cfg backend owner := by
  apply h.setStore
  intro record' hmem
  rcases List.mem_map.1 hmem with ⟨record, hrecord, rfl⟩
  exact ⟨record, hrecord, hid record, hsha record⟩

theorem remove (p : OAuthRefreshTokenVaultRecord → Bool) :
    (w.setStore (w.store.removeVaultRecords p)).IsOwned cfg backend owner :=
  h.setStore fun record hmem => ⟨record, (List.mem_filter.1 hmem).1, rfl, rfl⟩

theorem admitted (recordId : Uuid) (result : OAuthVaultAdmissionResult) :
    (w.setStore (w.store.updateOauthVaultAdmissionResult recordId result)).IsOwned cfg backend
      owner := by
  apply h.map
  · intro record
    split <;> rfl
  · intro record
    split <;> rfl

theorem queue (item : Nat) (req : ImportOAuthRefreshTokenRequest) (now : DateTime) :
    (w.queue cfg backend item req now).IsOwned cfg backend owner := by
  unfold VaultImports.queue
  split
  · exact h.setItem item trivial
  · split
    · exact h.setItem item trivial
    · exact h.setItem item nofun
  · apply h.setItem item
    intro id hid
    rcases Option.mem_map.1 hid with ⟨⟨recordId, createdAt⟩, hfound, rfl⟩
    rcases Option.map_eq_some_iff.1 hfound with ⟨record, hrecord, heq⟩
    have hsha := List.find?_some hrecord
    rw [decide_eq_true_eq] at hsha
    rw [← hsha, ← h.vault record (List.mem_of_find?_eq_some hrecord)]
    exact congrArg owner (Prod.mk.inj heq).1.symm

/-- A new id becomes the token's. -/
theorem insert {item : Nat} {req : ImportOAuthRefreshTokenRequest}
    {existing : Option (Uuid × DateTime)} {now : DateTime}
    (hitem : w.items item = .queueing req existing now) {newId : Uuid}
    (hfresh : w.DrawsFresh (.insert item newId)) :
    ∃ owner', (w.insert cfg backend item req existing now newId).IsOwned cfg backend owner' := by
  unfold VaultImports.insert
  split
  · exact ⟨owner, h⟩
  · split
    · exact ⟨owner, h.setItem item trivial⟩
    · rename_i record created hwritten
      rcases writtenRecord_eq_ok hwritten with ⟨hsha, hid⟩
      let owner' := Function.update owner newId (backend.tokenSha256 cfg req)
      have hkept : ∀ id, id ≠ newId → owner' id = owner id := fun id hne =>
        Function.update_of_ne hne _ _
      have howns : w.IsOwned cfg backend owner' := by
        constructor
        · intro other hother
          rw [hkept _ (hfresh.1 other hother)]
          exact h.vault other hother
        · intro other
          have hother := h.items other
          have hnew := hfresh.2 other
          cases hphase : w.items other with
          | queueing req' existing' now' =>
              rw [hphase] at hother hnew
              intro id hmem
              have hne : id ≠ newId := by
                rintro rfl
                exact hnew hmem
              rw [hkept id hne]
              exact hother id hmem
          | rejecting req' record' =>
              rw [hphase] at hother hnew
              change owner' record'.id = _
              rw [hkept _ fun heq => hnew (congrArg some heq)]
              exact hother
          | idle | queued | probing | probed | ended => trivial
      have hrecord : owner' record.id = record.refreshTokenSha256 := by
        rw [hsha]
        rcases hid with hid | hid | ⟨old, hold, hid, hsame⟩
        · rw [hid]
          exact Function.update_self _ _ _
        · have hmine := howns.items item
          rw [hitem] at hmine
          exact hmine record.id hid
        · rw [hid, howns.vault old hold]
          exact hsame
      have hstored : (w.setStore { w.store with
          vault := Keyed.upsertBy OAuthRefreshTokenVaultRecord.id record
            w.store.vault }).IsOwned cfg backend owner' := by
        constructor
        · intro other hother
          rcases Keyed.mem_or_of_mem_upsertBy hother with rfl | hold
          · exact hrecord
          · exact howns.vault other hold
        · exact howns.items
      exact ⟨owner', hstored.setItem item trivial⟩

theorem probe (item : Nat) (req : ImportOAuthRefreshTokenRequest) (created : Bool)
    (recordId : Option Uuid) (checkedAt : DateTime) :
    (w.probe cfg item req created recordId checkedAt).IsOwned cfg backend owner := by
  unfold VaultImports.probe
  split
  · exact h.setItem item trivial
  · split
    · exact (h.admitted _ _).setItem item trivial
    · exact h.setItem item trivial

theorem judge {item : Nat} {req : ImportOAuthRefreshTokenRequest} {created : Bool}
    (hitem : w.items item = .probed req created) (hjudges : w.JudgesOwn cfg backend (.judge item)) :
    (w.judge item req created).IsOwned cfg backend owner := by
  unfold VaultImports.judge
  split
  · exact h.setItem item trivial
  · rename_i record hfound
    split
    · apply h.setItem item
      rcases exists_of_found hfound with ⟨r, hr, rfl, -, -⟩
      have hown := (hjudges req created hitem).1 _ hfound r hr rfl
      exact (h.vault r hr).trans hown
    · exact h.setItem item trivial

theorem reject (item : Nat) (record : OAuthInventoryRecord) :
    (w.reject item record).IsOwned cfg backend owner := by
  unfold VaultImports.reject OAuthStore.deleteOauthInventoryRecordInner
  split
  · rename_i store hdeleted
    split at hdeleted
    · cases hdeleted
    · rw [← Except.ok.inj hdeleted]
      exact (h.remove _).setItem item trivial
  · exact h.setItem item trivial

theorem step {op : VaultImportOp} (hfresh : w.DrawsFresh op)
    (hjudges : w.JudgesOwn cfg backend op) :
    ∃ owner', (w.step cfg backend op).IsOwned cfg backend owner' := by
  cases op with
  | queue item req now =>
      change ∃ owner', (w.stepItem cfg backend item (w.items item) _).IsOwned cfg backend owner'
      cases hitem : w.items item with
      | idle => exact ⟨owner, h.queue item req now⟩
      | queueing | queued | probing | probed | rejecting | ended => exact ⟨owner, h⟩
  | insert item newId =>
      change ∃ owner', (w.stepItem cfg backend item (w.items item) _).IsOwned cfg backend owner'
      cases hitem : w.items item with
      | queueing req existing now => exact h.insert hitem hfresh
      | idle | queued | probing | probed | rejecting | ended => exact ⟨owner, h⟩
  | probe item checkedAt =>
      change ∃ owner', (w.stepItem cfg backend item (w.items item) _).IsOwned cfg backend owner'
      cases hitem : w.items item with
      | queued req created recordId => exact ⟨owner, h.probe item req created recordId checkedAt⟩
      | idle | queueing | probing | probed | rejecting | ended => exact ⟨owner, h⟩
  | answer item answer =>
      change ∃ owner', (w.stepItem cfg backend item (w.items item) _).IsOwned cfg backend owner'
      cases hitem : w.items item with
      | probing req created recordId call =>
          exact ⟨owner, (h.admitted recordId (probeResult cfg call answer)).setItem item trivial⟩
      | idle | queueing | queued | probed | rejecting | ended => exact ⟨owner, h⟩
  | judge item =>
      change ∃ owner', (w.stepItem cfg backend item (w.items item) _).IsOwned cfg backend owner'
      cases hitem : w.items item with
      | probed req created => exact ⟨owner, h.judge hitem hjudges⟩
      | idle | queueing | queued | probing | rejecting | ended => exact ⟨owner, h⟩
  | reject item =>
      change ∃ owner', (w.stepItem cfg backend item (w.items item) _).IsOwned cfg backend owner'
      cases hitem : w.items item with
      | rejecting req record => exact ⟨owner, h.reject item record⟩
      | idle | queueing | queued | probing | probed | ended => exact ⟨owner, h⟩
  | markFailed recordIds reason now =>
      refine ⟨owner, h.map ?_ ?_⟩
      all_goals
        intro record
        split <;> rfl
  | restore recordIds now =>
      refine ⟨owner, h.map ?_ ?_⟩
      all_goals
        intro record
        split <;> rfl
  | delete recordIds => exact ⟨owner, h.remove _⟩
  | purge now => exact ⟨owner, h.remove _⟩

theorem rejects_own (item : Nat) : w.JudgesOwn cfg backend (.reject item) := by
  intro req record hitem r hr hid
  have hmine := h.items item
  rw [hitem] at hmine
  rw [← h.vault r hr, hid]
  exact hmine

theorem judgesOwn_iff (op : VaultImportOp) :
    w.JudgesOwn cfg backend op ↔ w.OwnIsLatest cfg backend op := by
  cases op with
  | judge item => exact judge_iff h item
  | reject item => exact ⟨fun _ => trivial, fun _ => h.rejects_own item⟩
  | queue | insert | probe | answer | markFailed | restore | delete | purge => exact Iff.rfl

end IsOwned

/-- Each item judges its own record exactly where, in every lookup, that record is like the request
and was updated last among those that are. -/
theorem judgesOwn_along_iff (cfg : OAuthConfig) (backend : ImportBackend) (store : OAuthStore)
    (hids : (store.vault.map (·.id)).Nodup) (ops : List VaultImportOp)
    (hfresh : Machine.Along (step cfg backend) DrawsFresh (start store) ops) :
    Machine.Along (step cfg backend) (JudgesOwn cfg backend) (start store) ops ↔
      Machine.Along (step cfg backend) (OwnIsLatest cfg backend) (start store) ops := by
  apply Machine.Along.congr (P := fun w => ∃ owner, w.IsOwned cfg backend owner) _ _ hfresh
  · refine ⟨fun id => ((store.vaultRecord? id).map (·.refreshTokenSha256)).getD "", ?_, ?_⟩
    · intro record hrecord
      have hfound : store.vaultRecord? record.id = some record :=
        Keyed.lookupBy_of_mem hids hrecord
      rw [hfound]
      rfl
    · exact fun _ => trivial
  · rintro w op ⟨owner, h⟩ hop hjudges
    exact h.step hop hjudges
  · rintro w op ⟨owner, h⟩ _
    exact h.judgesOwn_iff op

/-! ## Sample runs -/

/-- The item that a step is about. -/
def itemOf : VaultImportOp → Option Nat
  | .queue item _ _ | .insert item _ | .probe item _ | .answer item _ | .judge item
  | .reject item => some item
  | .markFailed _ _ _ | .restore _ _ | .delete _ | .purge _ => none

theorem items_setItem {item other : Nat} (h : other ≠ item) (w : VaultImports)
    (phase : RefreshImport) : (w.setItem item phase).items other = w.items other := if_neg h

variable {op : VaultImportOp}

/-- A step changes no other item. -/
theorem items_step {other : Nat} (h : itemOf op ≠ some other) :
    (w.step cfg backend op).items other = w.items other := by
  have hitem (item : Nat) (hop : itemOf op = some item) :
      (w.stepItem cfg backend item (w.items item) op).items other = w.items other := by
    have hne : other ≠ item := fun heq => h (hop.trans (congrArg some heq.symm))
    unfold stepItem
    split
    · unfold queue
      split
      · exact items_setItem hne _ _
      · split <;> exact items_setItem hne _ _
      · exact items_setItem hne _ _
    · unfold insert
      split
      · rfl
      · split <;> exact items_setItem hne _ _
    · unfold probe
      split
      · exact items_setItem hne _ _
      · split <;> exact items_setItem hne _ _
    · exact items_setItem hne _ _
    · unfold judge
      split
      · exact items_setItem hne _ _
      · split <;> exact items_setItem hne _ _
    · unfold reject
      split <;> exact items_setItem hne _ _
    · rfl
  cases op with
  | queue item | insert item | probe item | answer item | judge item | reject item =>
      exact hitem item rfl
  | markFailed | restore | delete | purge => rfl

/-- Only the first items have been started. -/
def IdleFrom (n : Nat) (w : VaultImports) : Prop := ∀ item, n ≤ item → w.items item = .idle

def drawsFreshBelow (n : Nat) (w : VaultImports) (op : VaultImportOp) : Bool :=
  (itemOf op).all (· < n) &&
    match op with
    | .insert _ newId =>
      (w.store.vault.all fun record => record.id ≠ newId) &&
        (List.range n).all fun item => (w.items item).recordId? ≠ some newId
    | _ => true

theorem IdleFrom.step {n : Nat} (h : IdleFrom n w)
    (hop : drawsFreshBelow n w op = true) : IdleFrom n (w.step cfg backend op) := by
  intro item hle
  rw [items_step]
  · exact h item hle
  · intro heq
    have hbelow := ((Bool.and_eq_true _ _).mp hop).1
    rw [heq] at hbelow
    exact absurd (of_decide_eq_true hbelow) (Nat.not_lt.2 hle)

theorem IdleFrom.drawsFresh {n : Nat} (h : IdleFrom n w)
    (hop : drawsFreshBelow n w op = true) : w.DrawsFresh op := by
  cases op with
  | insert item newId =>
      have hfresh := ((Bool.and_eq_true _ _).mp hop).2
      rw [Bool.and_eq_true] at hfresh
      constructor
      · exact fun record hrecord =>
          of_decide_eq_true (List.all_eq_true.1 hfresh.1 record hrecord)
      · intro other
        by_cases hlt : other < n
        · exact of_decide_eq_true (List.all_eq_true.1 hfresh.2 other (List.mem_range.2 hlt))
        · rw [h other (Nat.not_lt.1 hlt)]
          exact nofun
  | queue | probe | answer | judge | reject | markFailed | restore | delete | purge => trivial

theorem drawsFresh_along {n : Nat} {store : OAuthStore} {ops : List VaultImportOp}
    (h : Machine.Along (step cfg backend) (fun w op => drawsFreshBelow n w op = true)
      (start store) ops) :
    Machine.Along (step cfg backend) DrawsFresh (start store) ops := by
  apply Machine.Along.of_invariant (P := IdleFrom n) _ h h fun _ _ => rfl
  exact fun w op hidle hop _ => ⟨hidle.step hop, hidle.drawsFresh hop⟩

/-- Two accounts of one workspace are imported with the same address. -/
def sampleImportRequest (refreshToken : String) : ImportOAuthRefreshTokenRequest where
  label :=
    derivedLabel id none (some "Team@example.com") (some "workspace") (some refreshToken) none
  baseUrl := "https://chatgpt.com/backend-api/codex"
  refreshToken := refreshToken
  fallbackAccessToken := some "access"
  fallbackTokenExpiresAt := some (seconds 3600)
  chatgptAccountId := some "workspace"
  mode := none
  enabled := none
  priority := none
  chatgptPlanType := none
  sourceType := none

def emptyVaultStore : OAuthStore where
  accounts := []
  providers := fun _ => none
  credentials := fun _ => none
  sessionProfiles := fun _ => none
  healthStates := fun _ => none
  vault := []

/-- The good token is probed first, and the bad one while the good item has yet to look up its
record. -/
def crossedImports : List VaultImportOp :=
  [.queue 0 (sampleImportRequest "bad") 1, .insert 0 ⟨"bad-id"⟩,
    .queue 1 (sampleImportRequest "good") 2, .insert 1 ⟨"good-id"⟩, .probe 1 3, .answer 1 (.ok []),
    .probe 0 4, .answer 0 (.error (.upstream .refreshTokenRevoked "revoked"))]

theorem crossedImports_fresh : Machine.Along (step plainConfig .sqlite) DrawsFresh
    (start emptyVaultStore) (crossedImports ++ [.judge 1]) :=
  drawsFresh_along (n := 2) (by decide +kernel)

theorem judgesOwn_along_crossedImports :
    Machine.Along (step plainConfig .sqlite) (JudgesOwn plainConfig .sqlite)
        (start emptyVaultStore) (crossedImports ++ [.judge 1]) ↔
      Machine.Along (step plainConfig .sqlite) (OwnIsLatest plainConfig .sqlite)
        (start emptyVaultStore) (crossedImports ++ [.judge 1]) :=
  judgesOwn_along_iff plainConfig .sqlite emptyVaultStore List.nodup_nil _ crossedImports_fresh

theorem found_after_crossedImports :
    let w := Machine.run (step plainConfig .sqlite) (start emptyVaultStore) crossedImports
    ((findInventoryAdmissionForRequest w.store (sampleImportRequest "good")).map fun record =>
      (record.id, shouldRejectTerminalInventoryAdmission record)) = some (⟨"bad-id"⟩, true) ∧
    (w.store.vault.any fun record => record.id = ⟨"bad-id"⟩ &&
      record.refreshTokenSha256 ≠ "sha-good") = true := by
  decide +kernel

/-- The good item finds the record of the bad token, is rejected for it and deletes it. -/
theorem good_import_is_rejected : ¬ ∀ cfg backend store ops, (store.vault.map (·.id)).Nodup →
    Machine.Along (step cfg backend) DrawsFresh (start store) ops →
      Machine.Along (step cfg backend) (JudgesOwn cfg backend) (start store) ops := by
  intro h
  have hrun := h plainConfig .sqlite emptyVaultStore _ List.nodup_nil crossedImports_fresh
  have hjudges := ((Machine.along_append _ _ _).1 hrun).2.1
  rcases found_after_crossedImports with ⟨hfound, hother⟩
  rcases Option.map_eq_some_iff.1 hfound with ⟨record, hrecord, heq⟩
  rcases List.any_eq_true.1 hother with ⟨r, hr, hmine⟩
  rw [Bool.and_eq_true, decide_eq_true_eq, decide_eq_true_eq] at hmine
  have hid : r.id = record.id := hmine.1.trans (Prod.mk.inj heq).1.symm
  exact hmine.2 ((hjudges (sampleImportRequest "good") true rfl).1 record hrecord r hr hid)

end VaultImports

end CodexPool
