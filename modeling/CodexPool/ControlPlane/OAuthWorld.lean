import CodexPool.ControlPlane.ImportFrame
import CodexPool.Lib.Machine

/-!
# Interleaved OAuth operations

Refreshes, imports, ready records and changes of token families on the in-memory store, in any
order. A refresh or an import starts, is answered by the upstream and goes on with the answer,
and anything may happen in between. The activation of a queued record is an import with the
token of the record.
-/

namespace CodexPool

/-- A call that was sent to the upstream. -/
inductive OAuthCall where
  | refresh (call : OAuthStore.RefreshCall)
  | upsert (call : OAuthStore.UpsertCall)

namespace OAuthCall

def refreshToken : OAuthCall → String
  | refresh call => call.refreshToken
  | upsert call => call.req.refreshToken

/-- The account that an answer is for. -/
def accountId (cfg : OAuthConfig) (s : OAuthStore) (info : OAuthTokenInfo)
    (draw : OAuthStore.UpsertDraw) : OAuthCall → Uuid
  | refresh call => call.accountId
  | upsert call => (s.accountOfUpsert cfg call info draw).id

def finish (cfg : OAuthConfig) (s : OAuthStore) (answer : RefreshAnswer)
    (draw : OAuthStore.UpsertDraw) : OAuthCall → OAuthStore
  | refresh call =>
    match s.finishRefresh cfg call answer draw.familyId draw.now with
    | .ok s' => s'
    | .error _ => s
  | upsert call => (s.finishUpsert cfg call answer draw).2

end OAuthCall

structure PendingCall where
  call : OAuthCall
  answer : Option (Nat × RefreshAnswer)

/-- The store with the calls that wait, the tokens that the upstream has exchanged, and for each
account the latest answer that was taken up. -/
structure OAuthWorld where
  store : OAuthStore
  pending : List PendingCall
  answered : Nat
  exchanged : List String
  latest : Uuid → Option (Nat × OAuthTokenInfo)

inductive OAuthOp where
  | startRefresh (accountId : Uuid) (force : Bool) (now : DateTime)
  | startUpsert (req : ImportOAuthRefreshTokenRequest)
  | answer (k : Nat) (answer : RefreshAnswer)
  | finish (k : Nat) (draw : OAuthStore.UpsertDraw)
  | setOauthFamilyEnabled (accountId : Uuid) (enabled : Bool) (now : DateTime)
  | materializeReady (record : OAuthRefreshTokenVaultRecord) (newId : Uuid) (now : DateTime)

namespace OAuthStore

def ids (s : OAuthStore) : List Uuid := s.accounts.map (·.id)

/-! ## What the operations do to credentials -/

section

variable {cfg : OAuthConfig} {s s' : OAuthStore}

theorem mem_ids {a : UpstreamAccount} (ha : a ∈ s.accounts) : a.id ∈ s.ids :=
  List.mem_map_of_mem ha

theorem ids_updateAccount (f : UpstreamAccount → UpstreamAccount) (hf : ∀ a, (f a).id = a.id)
    (accountId : Uuid) : (s.updateAccount accountId f).ids = s.ids := by
  unfold ids updateAccount
  rw [List.map_map]
  refine List.map_congr_left fun a _ => ?_
  simp only [Function.comp_apply]
  split_ifs
  · exact hf a
  · rfl

/-- The accounts have the ids that they had, and the credentials are those given. -/
structure KeepsIds (s s' : OAuthStore) (credentials : Uuid → Option OAuthCredentialRecord) :
    Prop where
  ids : s'.ids = s.ids
  credentials : s'.credentials = credentials

theorem KeepsIds.wellKeyed {credentials : Uuid → Option OAuthCredentialRecord}
    (h : KeepsIds s s' credentials) (hkeyed : s.WellKeyed) : s'.WellKeyed := by
  have hids := h.ids
  unfold OAuthStore.ids at hids
  unfold WellKeyed
  rw [hids]
  exact hkeyed

theorem Stored.mem_ids_iff {r : UpstreamAccount} {credential : OAuthCredentialRecord}
    {profile : SessionProfileRecord} (h : Stored s r credential profile s') {id : Uuid} :
    id ∈ s'.ids ↔ id = r.id ∨ id ∈ s.ids := by
  unfold OAuthStore.ids
  simp only [List.mem_map, h.accounts]
  constructor
  · rintro ⟨a, rfl | ⟨ha, -⟩, rfl⟩
    · exact .inl rfl
    · exact .inr ⟨a, ha, rfl⟩
  · rintro (rfl | ⟨a, ha, rfl⟩)
    · exact ⟨r, .inl rfl, rfl⟩
    · by_cases hid : a.id = r.id
      · exact ⟨r, .inl rfl, hid.symm⟩
      · exact ⟨a, .inr ⟨ha, hid⟩, rfl⟩

theorem credentials_of_mem_ids_removeAccounts (hkeyed : s.WellKeyed) {p : UpstreamAccount → Bool}
    {id : Uuid} (hid : id ∈ (s.removeAccounts p).ids) :
    id ∈ s.ids ∧ (s.removeAccounts p).credentials id = s.credentials id := by
  obtain ⟨a, ha, rfl⟩ := List.mem_map.1 hid
  obtain ⟨hmem, hp⟩ := (mem_removeAccounts hkeyed).1 ha
  exact ⟨mem_ids hmem, (credentials_removeAccounts hkeyed hmem hp).1⟩

theorem WellKeyed.removeAccounts (hkeyed : s.WellKeyed) (p : UpstreamAccount → Bool) :
    (s.removeAccounts p).WellKeyed :=
  hkeyed.sublist (List.filter_sublist.map _)

theorem credentials_removeAccounts_eq_some {p : UpstreamAccount → Bool} {id : Uuid}
    {c : OAuthCredentialRecord} (h : (s.removeAccounts p).credentials id = some c) :
    s.credentials id = some c := by
  unfold OAuthStore.removeAccounts at h
  dsimp only at h
  split_ifs at h
  exact h

variable (cfg s) in
theorem keepsIds_markUpstreamAccountPendingPurgeInner (accountId : Uuid) (reason : Option String)
    (now : DateTime) :
    KeepsIds s (s.markUpstreamAccountPendingPurgeInner cfg accountId reason now)
      s.credentials := by
  unfold markUpstreamAccountPendingPurgeInner
  cases s.account? accountId with
  | none => exact ⟨rfl, rfl⟩
  | some a =>
      exact ⟨ids_updateAccount (fun a => { a with enabled := false }) (fun _ => rfl) accountId, rfl⟩

variable (cfg s) in
theorem keepsIds_foldl (accountIds : List Uuid) (reason : Option String) (now : DateTime) :
    KeepsIds s (accountIds.foldl (fun s accountId =>
      s.markUpstreamAccountPendingPurgeInner cfg accountId reason now) s) s.credentials := by
  induction accountIds generalizing s with
  | nil => exact ⟨rfl, rfl⟩
  | cons accountId accountIds ih =>
      obtain ⟨hids, hcredentials⟩ :=
        keepsIds_markUpstreamAccountPendingPurgeInner cfg s accountId reason now
      exact ⟨(ih _).ids.trans hids, (ih _).credentials.trans hcredentials⟩

/-- A refresh that succeeded stores a record of its own. -/
theorem finishRefresh_of_ok {call : RefreshCall} {info : OAuthTokenInfo} {familyId : String}
    {now : DateTime} (h : s.finishRefresh cfg call (.ok info) familyId now = .ok s') :
    ∃ credential, HoldsTokens cfg info credential ∧
      credential.tokenVersion = OAuthCredentialRecord.nextVersion call.credential.tokenVersion ∧
      credential.fallbackAccessTokenEnc = none ∧ credential.fallbackTokenExpiresAt = none ∧
      KeepsIds s s' (Function.update s.credentials call.accountId (some credential)) := by
  unfold finishRefresh at h
  simp only [Result.bind_eq_ok] at h
  obtain ⟨cipher, hcipher, base, hbase, h⟩ := h
  obtain ⟨haccess, hrefresh, hsha⟩ := OAuthCredentialRecord.fromTokenInfo_eq_ok hbase
  obtain rfl := Except.ok.inj h
  obtain ⟨-, hfallback, hexpires⟩ := OAuthCredentialRecord.fromTokenInfo_first hbase
  refine ⟨{ base with
      tokenFamilyId := call.credential.tokenFamilyId
      tokenVersion := OAuthCredentialRecord.nextVersion call.credential.tokenVersion },
    ⟨hsha, cipher, OAuthConfig.requireCredentialCipher_eq_ok.1 hcipher, haccess, hrefresh⟩, rfl,
    hfallback, hexpires, ?_, ?_⟩
  · split_ifs
    · exact ids_updateAccount (fun a => { a with chatgptAccountId := info.chatgptAccountId })
        (fun _ => rfl) call.accountId
    · rfl
  · split_ifs <;> rfl

variable (s) in
theorem finishRefresh_ok_of_encrypts (call : RefreshCall) {info : OAuthTokenInfo}
    (familyId : String) (now : DateTime) {cipher : CredentialCipher}
    (hcipher : cfg.credentialCipher = some cipher)
    (haccess : ∃ enc, cipher.encrypt info.accessToken = .ok enc)
    (hrefresh : ∃ enc, cipher.encrypt info.refreshToken = .ok enc) :
    ∃ s', s.finishRefresh cfg call (.ok info) familyId now = .ok s' := by
  obtain ⟨accessEnc, haccess⟩ := haccess
  obtain ⟨refreshEnc, hrefresh⟩ := hrefresh
  simp only [finishRefresh, OAuthCredentialRecord.fromTokenInfo,
    OAuthConfig.requireCredentialCipher_eq_ok.2 hcipher, haccess, hrefresh, bind, Except.bind,
    pure, Except.pure]
  exact ⟨_, rfl⟩

variable (cfg s) in
theorem finishRefresh_of_error (call : RefreshCall) (err : OAuthTokenClientError)
    (familyId : String) (now : DateTime) :
    ∃ s', s.finishRefresh cfg call (.error err) familyId now = .ok s' ∧
      KeepsIds s s' (Function.update s.credentials call.accountId
        (some (call.credential.failed err call.now))) := by
  unfold finishRefresh
  refine ⟨_, rfl, ?_⟩
  split_ifs
  · have hmark := keepsIds_foldl cfg
      (s.upsertOauthCredential call.accountId (call.credential.failed err call.now))
    exact ⟨(hmark _ _ _).ids, (hmark _ _ _).credentials⟩
  · have hmark := keepsIds_markUpstreamAccountPendingPurgeInner cfg
      (s.upsertOauthCredential call.accountId (call.credential.failed err call.now))
    exact ⟨(hmark _ _ _).ids, (hmark _ _ _).credentials⟩
  · exact ⟨rfl, rfl⟩

/-- A refresh that is sent has read the credential of an account that exists. -/
theorem startRefresh_eq_some {accountId : Uuid} {force : Bool} {now : DateTime}
    {call : RefreshCall} (h : s.startRefresh cfg accountId force now = .ok (some call)) :
    call.accountId = accountId ∧ (∃ a, s.account? accountId = some a) ∧
      s.credentials accountId = some call.credential ∧
      ∃ cipher, cfg.credentialCipher = some cipher ∧
        cipher.decrypt call.credential.refreshTokenEnc = .ok call.refreshToken := by
  unfold startRefresh at h
  cases haccount : s.account? accountId with
  | none =>
      rw [haccount] at h
      cases h
  | some a =>
      cases hcredential : s.credentials accountId with
      | none =>
          simp only [haccount, hcredential] at h
          split_ifs at h
          cases h
      | some credential =>
          simp only [haccount, hcredential] at h
          split_ifs at h
          iterate 4 cases h
          simp only [Result.bind_eq_ok, pure, Except.pure, Except.ok.injEq, Option.some.injEq] at h
          obtain ⟨cipher, hcipher, refreshToken, hdecrypt, rfl⟩ := h
          exact ⟨rfl, ⟨a, rfl⟩, rfl, cipher, OAuthConfig.requireCredentialCipher_eq_ok.1 hcipher,
            hdecrypt⟩

theorem finishUpsert_of_ok (hkeyed : s.WellKeyed) {call : UpsertCall} {info : OAuthTokenInfo}
    (draw : UpsertDraw) (hencryptable : Encryptable cfg call info) :
    ∃ credential s' p, s.credentialOfUpsert cfg call info draw = .ok credential ∧
      Stored s (s.accountOfUpsert cfg call info draw) credential (s.profileOfUpsert cfg call info)
        s' ∧
      (s.finishUpsert cfg call (.ok info) draw).2 = s'.removeAccounts p := by
  obtain ⟨credential, hcredential⟩ := (encryptable_iff s draw).1 hencryptable
  obtain ⟨created, s', hstore, hstored⟩ := storeTokens_of_ok hkeyed hcredential
  refine ⟨credential, s', s'.duplicate (identityKeyOf info.profile.chatgptAccountUserId
    info.profile.chatgptUserId (call.req.chatgptAccountId.or info.chatgptAccountId)), hcredential,
    hstored, ?_⟩
  simp only [finishUpsert, hstore]
  rfl

/-- Where the tokens cannot be encrypted, credentials stay. -/
theorem finishUpsert_of_not_encryptable (hkeyed : s.WellKeyed) {call : UpsertCall}
    {info : OAuthTokenInfo} (draw : UpsertDraw) (hnot : ¬ Encryptable cfg call info) :
    KeepsIds s (s.finishUpsert cfg call (.ok info) draw).2 s.credentials := by
  cases hcredential : s.credentialOfUpsert cfg call info draw with
  | ok credential => exact absurd ((encryptable_iff s draw).2 ⟨credential, hcredential⟩) hnot
  | error e =>
      unfold credentialOfUpsert at hcredential
      unfold finishUpsert
      dsimp only
      rw [storeTokens_eq hkeyed]
      cases hmatched : s.matchedAccount cfg call info with
      | none =>
          rw [hmatched] at hcredential
          dsimp only at hcredential
          simp only [importOauthRefreshTokenWithTokenInfoInner, hcredential]
          exact ⟨rfl, rfl⟩
      | some account =>
          rw [hmatched] at hcredential
          dsimp only at hcredential
          simp only [updateMatched, hcredential]
          exact ⟨ids_updateAccount (updatedAccount call info) (fun _ => rfl) account.id, rfl⟩

/-- The version follows the one of the record that is replaced. -/
theorem credentialOfUpsert_version {call : UpsertCall} {info : OAuthTokenInfo} {draw : UpsertDraw}
    {credential : OAuthCredentialRecord}
    (h : s.credentialOfUpsert cfg call info draw = .ok credential) :
    credential.tokenVersion =
      ((s.matchedAccount cfg call info).bind fun a => s.credentials a.id).elim 1
        fun old => OAuthCredentialRecord.nextVersion old.tokenVersion := by
  unfold credentialOfUpsert at h
  cases hmatched : s.matchedAccount cfg call info with
  | none =>
      simp only [hmatched, importedCredential, Result.bind_eq_ok] at h
      obtain ⟨cipher, -, base, hbase, hfallback⟩ := h
      obtain ⟨enc, expires, rfl⟩ := OAuthCredentialRecord.setFallbackAccessToken_eq_ok hfallback
      exact (OAuthCredentialRecord.fromTokenInfo_first hbase).1
  | some a =>
      simp only [hmatched, updatedCredential, Result.bind_eq_ok] at h
      obtain ⟨cipher, -, base, hbase, h⟩ := h
      have hfirst := (OAuthCredentialRecord.fromTokenInfo_first hbase).1
      rw [Option.bind_some]
      split_ifs at h
      · obtain ⟨enc, expires, rfl⟩ := OAuthCredentialRecord.setFallbackAccessToken_eq_ok h
        cases hold : s.credentials a.id with
        | none => exact hfirst
        | some old => rfl
      · obtain rfl := Except.ok.inj h
        cases hold : s.credentials a.id with
        | none => exact hfirst
        | some old => rfl

theorem setOauthFamilyEnabledInner_eq_ok {accountId : Uuid} {enabled : Bool} {now : DateTime}
    (h : s.setOauthFamilyEnabledInner accountId enabled now = .ok s') :
    ∃ f : OAuthCredentialRecord → OAuthCredentialRecord,
      (∀ c, f c = c ∨
        f c = { c with refreshReusedDetected := false, refreshBackoffUntil := none }) ∧
      KeepsIds s s' fun id => (s.credentials id).map f := by
  unfold setOauthFamilyEnabledInner at h
  split_ifs at h
  cases hcredential : s.credentials accountId with
  | none =>
      rw [hcredential] at h
      cases h
  | some target =>
      rw [hcredential] at h
      obtain rfl := Except.ok.inj h
      refine ⟨_, fun c => ?_, ?_, rfl⟩
      · split_ifs
        · exact .inr rfl
        · exact .inl rfl
      · unfold ids
        rw [List.map_map]
        refine List.map_congr_left fun a _ => ?_
        simp only [Function.comp_apply]
        split_ifs <;> rfl

end

end OAuthStore

namespace OAuthWorld

variable (cfg : OAuthConfig) (w : OAuthWorld)

def init (s : OAuthStore) : OAuthWorld where
  store := s
  pending := []
  answered := 0
  exchanged := []
  latest := fun _ => none

def send (call : OAuthCall) : OAuthWorld :=
  { w with pending := w.pending ++ [⟨call, none⟩] }

/-- An answer is taken up for an account, unless one that was given later has been. -/
def newest (old : Option (Nat × OAuthTokenInfo)) (n : Nat) (info : OAuthTokenInfo) :
    Nat × OAuthTokenInfo :=
  match old with
  | none => (n, info)
  | some (m, old) => if n < m then (m, old) else (n, info)

/-- The answers that are taken up when a call goes on. What is known of accounts that exist no
more is dropped. -/
def latestAfter (store : OAuthStore) (call : OAuthCall) (n : Nat) (answer : RefreshAnswer)
    (draw : OAuthStore.UpsertDraw) : Uuid → Option (Nat × OAuthTokenInfo) := fun id =>
  if id ∈ store.ids then
    match answer with
    | .ok info =>
      if id = call.accountId cfg w.store info draw then some (newest (w.latest id) n info)
      else w.latest id
    | .error _ => w.latest id
  else none

def startRefresh (accountId : Uuid) (force : Bool) (now : DateTime) : OAuthWorld :=
  match w.store.startRefresh cfg accountId force now with
  | .ok (some call) => w.send (.refresh call)
  | _ => w

def startUpsert (req : ImportOAuthRefreshTokenRequest) : OAuthWorld :=
  match OAuthStore.startUpsert cfg req with
  | .ok call => w.send (.upsert call)
  | .error _ => w

def receive (k : Nat) (answer : RefreshAnswer) : OAuthWorld :=
  match w.pending[k]? with
  | some ⟨call, none⟩ =>
    { w with
      pending := w.pending.set k ⟨call, some (w.answered, answer)⟩
      answered := w.answered + 1
      exchanged := match answer with
        | .ok _ => call.refreshToken :: w.exchanged
        | .error _ => w.exchanged }
  | _ => w

def finish (k : Nat) (draw : OAuthStore.UpsertDraw) : OAuthWorld :=
  match w.pending[k]? with
  | some ⟨call, some (n, answer)⟩ =>
    let store := call.finish cfg w.store answer draw
    { w with
      store
      pending := w.pending.eraseIdx k
      latest := w.latestAfter cfg store call n answer draw }
  | _ => w

def setOauthFamilyEnabled (accountId : Uuid) (enabled : Bool) (now : DateTime) : OAuthWorld :=
  match w.store.setOauthFamilyEnabledInner accountId enabled now with
  | .ok store => { w with store }
  | .error _ => w

def materializeReady (record : OAuthRefreshTokenVaultRecord) (newId : Uuid) (now : DateTime) :
    OAuthWorld :=
  match w.store.materializeReadyOauthVaultRecordInner cfg record newId now with
  | .ok (_, store) => { w with store }
  | .error _ => w

def step (w : OAuthWorld) : OAuthOp → OAuthWorld
  | .startRefresh accountId force now => w.startRefresh cfg accountId force now
  | .startUpsert req => w.startUpsert cfg req
  | .answer k answer => w.receive k answer
  | .finish k draw => w.finish cfg k draw
  | .setOauthFamilyEnabled accountId enabled now => w.setOauthFamilyEnabled accountId enabled now
  | .materializeReady record newId now => w.materializeReady cfg record newId now

def finished (w : OAuthWorld) (cfg : OAuthConfig) (k : Nat) (call : OAuthCall) (n : Nat)
    (answer : RefreshAnswer) (draw : OAuthStore.UpsertDraw) : OAuthWorld :=
  let store := call.finish cfg w.store answer draw
  { w with
    store
    pending := w.pending.eraseIdx k
    latest := w.latestAfter cfg store call n answer draw }

theorem finish_of_pending {cfg : OAuthConfig} {w : OAuthWorld} {k n : Nat} {call : OAuthCall}
    {answer : RefreshAnswer} (hk : w.pending[k]? = some ⟨call, some (n, answer)⟩)
    (draw : OAuthStore.UpsertDraw) :
    w.finish cfg k draw = w.finished cfg k call n answer draw := by
  simp only [finish, hk, finished]

/-! ### One account -/

def userTokens (refreshToken : String) : OAuthTokenInfo where
  accessToken := "access-" ++ refreshToken
  refreshToken := refreshToken
  expiresAt := seconds 3600
  chatgptAccountId := some "workspace"
  profile := { OAuthProfile.empty with chatgptAccountUserId := some "user" }

def dueStore : OAuthStore where
  accounts := [workspaceAccount "a" "workspace" 0]
  providers := fun _ => some .oauthRefreshToken
  credentials := fun id => if id = ⟨"a"⟩ then some (plainCredential "token-a" 0) else none
  sessionProfiles := fun _ => some {
    credentialKind := .refreshRotatable
    tokenExpiresAt := none
    profile := (userTokens "token-a").profile
    sourceType := none }
  healthStates := fun _ => none
  vault := []

def importB : ImportOAuthRefreshTokenRequest where
  label := "b"
  baseUrl := "https://chatgpt.com/backend-api/codex"
  refreshToken := "token-b"
  fallbackAccessToken := none
  fallbackTokenExpiresAt := none
  chatgptAccountId := none
  mode := none
  enabled := none
  priority := none
  chatgptPlanType := none
  sourceType := none

def drawB : OAuthStore.UpsertDraw where
  accountId := ⟨"b"⟩
  familyId := "family-b"
  now := 1

/-- A refresh that nothing comes in between. -/
def quietRefresh : List OAuthOp :=
  [.startRefresh ⟨"a"⟩ false 0, .answer 0 (.ok (userTokens "token-a2")), .finish 0 drawB]

end OAuthWorld

end CodexPool
