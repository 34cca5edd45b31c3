import CodexPool.ControlPlane.Store

/-!
# The two loaders of an account

An account reaches a data plane in a full snapshot or in an event about it. Both are made of the
same row by code that was written twice. They differ in the token of an account that is not
enabled: the event clears it. Which of its two tokens an enabled account is sent with is decided
apart from whether it is enabled, and an access token that has expired can be the choice.
-/

namespace CodexPool

open Keyed

/-! ## Which token is chosen -/

/-- The token is one of the two that are stored, and it has not expired. The fallback token need
not have an expiry. -/
def HasLiveToken (now : DateTime) (cipher : Option (String → Option String))
    (credential : Option CredentialRow) (token : String) : Prop :=
  ∃ stored ∈ credential,
    (cipher.bind (· stored.accessTokenEnc) = some token ∧ now < stored.tokenExpiresAt) ∨
      ∃ enc ∈ stored.fallbackAccessTokenEnc, cipher.bind (· enc) = some token ∧
        ∀ expiresAt ∈ stored.fallbackTokenExpiresAt, now < expiresAt

namespace AccountRow

variable (now : DateTime) (row : AccountRow) (cipher : Option (String → Option String))

def hasRateLimitBlock : Bool :=
  hasActiveRateLimitBlock now (row.rateLimit.bind (·.expiresAt))
    (row.rateLimit.bind (·.lastErrorCode)) (row.rateLimit.bind (·.lastErrorMessage))

/-- The account has a fallback token that it can be used with, but its refresh credential is not
known to be invalid, so that its access token, which has expired, is preferred. -/
def PrefersExpiredToken : Prop :=
  row.enabled = true ∧ row.fallbackUsable now = true ∧ row.terminalInvalid = false ∧
    row.hasRateLimitBlock now = false ∧
    ∃ stored ∈ row.credential, stored.tokenExpiresAt ≤ now ∧
      ∃ token, cipher.bind (· stored.accessTokenEnc) = some token ∧
        stored.fallbackAccessTokenEnc.bind (fun enc => cipher.bind (· enc)) ≠ some token

variable {now row cipher}

theorem oauthEffectiveEnabled_iff (hoauth : row.authProvider = .oauthRefreshToken) :
    row.oauthEffectiveEnabled now = true ↔
      row.enabled = true ∧
        (row.tokenExpiresAt.any (now + oauthMinValid < ·) = true ∨ row.fallbackUsable now = true) ∧
        (row.terminalInvalid = true → row.fallbackUsable now = true) ∧
        row.hasRateLimitBlock now = false := by
  unfold oauthEffectiveEnabled hasRateLimitBlock
  rw [hoauth]
  cases row.enabled <;> cases row.tokenExpiresAt.any (now + oauthMinValid < ·) <;>
    cases row.fallbackUsable now <;> cases row.terminalInvalid <;> simp

theorem exists_fallback (h : row.fallbackUsable now = true) :
    ∃ stored ∈ row.credential, ∃ enc ∈ stored.fallbackAccessTokenEnc,
      ∀ expiresAt ∈ stored.fallbackTokenExpiresAt, now < expiresAt := by
  unfold fallbackUsable hasUsableAccessTokenFallback hasAccessTokenFallback at h
  rw [Bool.and_eq_true] at h
  cases hstored : row.credential with
  | none =>
      rw [hstored] at h
      exact absurd h.1 (by simp)
  | some stored =>
      rw [hstored, Option.bind_some, Option.bind_some] at h
      rcases Option.isSome_iff_exists.1 h.1 with ⟨enc, henc⟩
      refine ⟨stored, rfl, enc, henc, fun expiresAt hexpires => ?_⟩
      rw [Option.mem_def.1 hexpires] at h
      have hlate : now + oauthMinValid < expiresAt := of_decide_eq_true h.2
      have hmin : (0 : Int) ≤ oauthMinValid := by decide
      exact lt_of_le_of_lt (Int.le_add_of_nonneg_right hmin) hlate

theorem hasLiveToken_fallback {decrypt : String → Option String} {token : String}
    (h : row.fallbackUsable now = true)
    (htoken : (row.credential.bind (·.fallbackAccessTokenEnc)).bind decrypt = some token) :
    HasLiveToken now (some decrypt) row.credential token := by
  rcases exists_fallback h with ⟨stored, hstored, enc, henc, hlive⟩
  refine ⟨stored, hstored, Or.inr ⟨enc, henc, ?_, hlive⟩⟩
  rw [Option.mem_def.1 hstored, Option.bind_some, Option.mem_def.1 henc] at htoken
  exact htoken

theorem not_prefersExpiredToken_of_terminal (h : row.terminalInvalid = true) :
    ¬ row.PrefersExpiredToken now cipher := by
  intro hexpired
  rw [hexpired.2.2.1] at h
  exact Bool.false_ne_true h

/-- The access token of an enabled account is a live one unless it has expired. -/
theorem hasLiveToken_access_iff {decrypt : String → Option String} {stored : CredentialRow}
    {token : String} (hoauth : row.authProvider = .oauthRefreshToken)
    (henabled : row.oauthEffectiveEnabled now = true)
    (hprimary : row.shouldUseAccessTokenFallbackForRuntime now = false)
    (hstored : row.credential = some stored) (htoken : decrypt stored.accessTokenEnc = some token) :
    HasLiveToken now (some decrypt) row.credential token ↔
      ¬ row.PrefersExpiredToken now (some decrypt) := by
  rcases (oauthEffectiveEnabled_iff hoauth).1 henabled with ⟨hflag, husable, _, hblock⟩
  constructor
  · rintro ⟨live, hlive, hchoice⟩ ⟨_, _, _, _, old, hold, hexpired, token', htoken', hother⟩
    cases (Option.mem_unique hlive hold : live = old)
    cases Option.some.inj (hstored.symm.trans hlive)
    cases Option.some.inj (htoken.symm.trans htoken')
    rcases hchoice with ⟨_, hbefore⟩ | ⟨enc, henc, hfallback, _⟩
    · exact absurd hbefore (not_lt.2 hexpired)
    · apply hother
      rw [Option.mem_def.1 henc]
      exact hfallback
  · intro hfresh
    by_cases hbefore : now < stored.tokenExpiresAt
    · exact ⟨stored, hstored, Or.inl ⟨htoken, hbefore⟩⟩
    · have hexpired := not_lt.1 hbefore
      have hshort : row.tokenExpiresAt.any (now + oauthMinValid < ·) = false := by
        have hmin : (0 : Int) ≤ oauthMinValid := by decide
        rw [tokenExpiresAt, hstored]
        apply decide_eq_false
        exact not_lt.2 (le_trans hexpired (Int.le_add_of_nonneg_right hmin))
      have hfallback : row.fallbackUsable now = true := by
        rcases husable with hlong | hfallback
        · rw [hshort] at hlong
          exact absurd hlong Bool.false_ne_true
        · exact hfallback
      have hterminal : row.terminalInvalid = false := by
        rw [shouldUseAccessTokenFallbackForRuntime, hfallback, hshort] at hprimary
        simpa using hprimary
      by_cases hsame : stored.fallbackAccessTokenEnc.bind decrypt = some token
      · apply hasLiveToken_fallback hfallback
        rw [hstored]
        exact hsame
      · exact absurd ⟨hflag, hfallback, hterminal, hblock, stored, hstored, hexpired, token, htoken,
          hsame⟩ hfresh

/-- The token that is chosen for an enabled account is a live one, unless it is an access token
that has expired. -/
theorem hasLiveToken_decryptAccessToken_iff {token : String}
    (hoauth : row.authProvider = .oauthRefreshToken)
    (henabled : row.oauthEffectiveEnabled now = true)
    (htoken : row.decryptAccessToken now cipher = some token) :
    HasLiveToken now cipher row.credential token ↔ ¬ row.PrefersExpiredToken now cipher := by
  cases cipher with
  | none => exact absurd htoken (by simp [decryptAccessToken])
  | some decrypt =>
      rw [decryptAccessToken] at htoken
      cases hprimary : row.shouldUseAccessTokenFallbackForRuntime now with
      | true =>
          rw [hprimary] at htoken
          rw [shouldUseAccessTokenFallbackForRuntime, Bool.and_eq_true,
            Bool.and_eq_true] at hprimary
          exact iff_of_true (hasLiveToken_fallback hprimary.1.1 htoken)
            (not_prefersExpiredToken_of_terminal hprimary.1.2)
      | false =>
          rw [hprimary] at htoken
          cases hstored : row.credential with
          | none =>
              rw [hstored] at htoken
              simp at htoken
          | some stored =>
              rw [hstored] at htoken
              cases haccess : decrypt stored.accessTokenEnc with
              | some access =>
                  simp only [haccess] at htoken
                  cases Option.some.inj htoken
                  rw [← hstored]
                  exact hasLiveToken_access_iff hoauth henabled hprimary hstored haccess
              | none =>
                  simp only [haccess] at htoken
                  cases hfallback : row.fallbackUsable now with
                  | false =>
                      rw [hfallback] at htoken
                      exact absurd htoken (by simp)
                  | true =>
                      rw [hfallback] at htoken
                      rw [← hstored] at htoken ⊢
                      apply iff_of_true (hasLiveToken_fallback hfallback htoken)
                      rintro ⟨_, _, _, _, old, hold, _, access, hdecrypted, _⟩
                      cases Option.some.inj (hstored.symm.trans hold)
                      exact absurd (haccess.symm.trans hdecrypted) (by simp)

theorem PrefersExpiredToken.enabled (h : row.PrefersExpiredToken now cipher)
    (hoauth : row.authProvider = .oauthRefreshToken) : row.oauthEffectiveEnabled now = true :=
  (oauthEffectiveEnabled_iff hoauth).2 ⟨h.1, Or.inr h.2.1, fun _ => h.2.1, h.2.2.2.1⟩

theorem PrefersExpiredToken.exists_token (h : row.PrefersExpiredToken now cipher) :
    ∃ token, row.decryptAccessToken now cipher = some token := by
  rcases h with ⟨_, _, hterminal, _, stored, hstored, _, token, htoken, _⟩
  cases cipher with
  | none => exact absurd htoken (by simp)
  | some decrypt =>
      refine ⟨token, ?_⟩
      have haccess : decrypt stored.accessTokenEnc = some token := htoken
      simp [decryptAccessToken, shouldUseAccessTokenFallbackForRuntime, hterminal,
        Option.mem_def.1 hstored, haccess]

/-! ## What the loaders make of a row -/

theorem snapshotAccount_of_oauth (hoauth : row.authProvider = .oauthRefreshToken) :
    row.snapshotAccount now cipher = match row.decryptAccessToken now cipher with
      | some token => row.toAccount token (row.oauthEffectiveEnabled now)
      | none => row.toAccount "" false := by
  unfold snapshotAccount
  rewrite [hoauth]
  cases row.decryptAccessToken now cipher with
  | none => rfl
  | some token => rfl

theorem eventAccount_of_oauth (hoauth : row.authProvider = .oauthRefreshToken) :
    row.eventAccount now cipher =
      if row.oauthEffectiveEnabled now = true then row.snapshotAccount now cipher
      else row.toAccount "" false := by
  rw [snapshotAccount_of_oauth hoauth, eventAccount, hoauth]
  cases row.oauthEffectiveEnabled now with
  | true => rfl
  | false => rfl

theorem snapshotAccount_live_iff (hoauth : row.authProvider = .oauthRefreshToken) :
    ((row.snapshotAccount now cipher).enabled = true →
        HasLiveToken now cipher row.credential (row.snapshotAccount now cipher).bearerToken) ↔
      ¬ row.PrefersExpiredToken now cipher := by
  rw [snapshotAccount_of_oauth hoauth]
  cases htoken : row.decryptAccessToken now cipher with
  | none =>
      apply iff_of_true (fun henabled => absurd henabled Bool.false_ne_true)
      intro hexpired
      rcases hexpired.exists_token with ⟨token, hsome⟩
      exact absurd (htoken.symm.trans hsome) (by simp)
  | some token =>
      cases henabled : row.oauthEffectiveEnabled now with
      | false =>
          apply iff_of_true (fun h => absurd h Bool.false_ne_true)
          intro hexpired
          exact absurd (henabled.symm.trans (hexpired.enabled hoauth)) Bool.false_ne_true
      | true =>
          rw [← hasLiveToken_decryptAccessToken_iff hoauth henabled htoken]
          exact ⟨fun h => h rfl, fun h _ => h⟩

theorem eventAccount_live_iff (hoauth : row.authProvider = .oauthRefreshToken) :
    ((row.eventAccount now cipher).enabled = true →
        HasLiveToken now cipher row.credential (row.eventAccount now cipher).bearerToken) ↔
      ¬ row.PrefersExpiredToken now cipher := by
  rw [eventAccount_of_oauth hoauth]
  split
  · exact snapshotAccount_live_iff hoauth
  · rename_i hdisabled
    apply iff_of_true (fun h => absurd h Bool.false_ne_true)
    exact fun hexpired => hdisabled (hexpired.enabled hoauth)

variable (now row cipher) in
/-- The account is not enabled, and a token of it can be decrypted all the same. -/
def SendsIdleToken : Prop :=
  row.authProvider = .oauthRefreshToken ∧ row.oauthEffectiveEnabled now = false ∧
    ∃ token ∈ row.decryptAccessToken now cipher, token ≠ ""

theorem eventAccount_eq_snapshotAccount_iff :
    row.eventAccount now cipher = row.snapshotAccount now cipher ↔
      ¬ row.SendsIdleToken now cipher := by
  cases hprovider : row.authProvider with
  | legacyBearer =>
      apply iff_of_true
      · rw [eventAccount, snapshotAccount, hprovider]
      · intro hidle
        exact absurd (hprovider.symm.trans hidle.1) (by decide)
  | oauthRefreshToken =>
      rw [eventAccount_of_oauth hprovider]
      split
      · rename_i henabled
        apply iff_of_true rfl
        exact fun hidle => absurd (henabled.symm.trans hidle.2.1) (by decide)
      · rename_i hdisabled
        have hfalse : row.oauthEffectiveEnabled now = false := Bool.eq_false_iff.2 hdisabled
        rw [snapshotAccount_of_oauth hprovider]
        cases htoken : row.decryptAccessToken now cipher with
        | none =>
            apply iff_of_true rfl
            rintro ⟨_, _, token, hsome, _⟩
            exact absurd (htoken.symm.trans hsome) (by simp)
        | some token =>
            constructor
            · rintro hsame ⟨_, _, token', hsome, hne⟩
              cases Option.some.inj (htoken.symm.trans hsome)
              exact hne (congrArg UpstreamAccount.bearerToken hsame).symm
            · intro hempty
              have htext : token = "" := by
                by_contra hne
                exact hempty ⟨hprovider, hfalse, token, htoken, hne⟩
              rw [htext, hfalse]

end AccountRow

/-! ## Tables of accounts -/

namespace AccountTable

variable {cfg : StoreConfig} {now : DateTime} {t : AccountTable}

theorem nodup_activeRows (t : AccountTable) : (t.activeRows.map (·.id)).Nodup := by
  have hperm := (List.perm_insertionSort (fun a b : AccountRow => a.createdAt ≤ b.createdAt)
    (t.rows.filter (·.poolState = .active))).map (·.id)
  exact hperm.nodup_iff.2 (t.nodup.sublist (List.Sublist.map _ List.filter_sublist))

theorem lookupBy_activeRows (t : AccountTable) (id : Uuid) :
    lookupBy (·.id) t.activeRows id = (t.find id).filter (·.poolState = .active) := by
  have hperm := List.perm_insertionSort (fun a b : AccountRow => a.createdAt ≤ b.createdAt)
    (t.rows.filter (·.poolState = .active))
  have hsorted := congrFun (lookupBy_perm t.nodup_activeRows hperm) id
  exact hsorted.trans (lookupBy_filter t.nodup _ id)

theorem mem_activeRows {row : AccountRow} :
    row ∈ t.activeRows ↔ row ∈ t.rows ∧ row.poolState = .active := by
  rw [activeRows, List.mem_insertionSort, List.mem_filter, decide_eq_true_eq]

/-- An event is made of a row of the pool. -/
theorem loadSnapshotAccountById_eq_some_iff {id : Uuid} {account : UpstreamAccount} :
    t.loadSnapshotAccountById cfg now id = some account ↔
      ∃ row ∈ t.activeRows, row.id = id ∧ row.eventAccount now cfg.credentialCipher = account := by
  rw [loadSnapshotAccountById, ← lookupBy_activeRows, Option.map_eq_some_iff]
  constructor
  · rintro ⟨row, hrow, rfl⟩
    rw [lookupBy_eq_some_iff t.nodup_activeRows] at hrow
    exact ⟨row, hrow.1, hrow.2, rfl⟩
  · rintro ⟨row, hrow, hid, rfl⟩
    exact ⟨row, (lookupBy_eq_some_iff t.nodup_activeRows).2 ⟨hrow, hid⟩, rfl⟩

theorem mem_loadSnapshotAccountsInner {account : UpstreamAccount} :
    account ∈ t.loadSnapshotAccountsInner cfg now ↔
      ∃ row ∈ t.activeRows, row.snapshotAccount now cfg.credentialCipher = account :=
  List.mem_map

theorem eq_of_id_eq {row row' : AccountRow} (hrow : row ∈ t.activeRows)
    (hrow' : row' ∈ t.activeRows)
    (hid : row.id = row'.id) : row = row' :=
  List.inj_on_of_nodup_map t.nodup_activeRows hrow hrow' hid

/-- An event carries the account that the full snapshot lists, or none, exactly when no account
that is not enabled is listed with a token. -/
theorem loaders_agree_iff (cfg : StoreConfig) (now : DateTime) (t : AccountTable) :
    ((∀ account ∈ t.loadSnapshotAccountsInner cfg now,
        t.loadSnapshotAccountById cfg now account.id = some account) ∧
      ∀ id, (∀ account ∈ t.loadSnapshotAccountsInner cfg now, account.id ≠ id) →
        t.loadSnapshotAccountById cfg now id = none) ↔
      ∀ row ∈ t.rows, row.poolState = .active → ¬ row.SendsIdleToken now cfg.credentialCipher := by
  constructor
  · intro h row hrow hactive
    have hmem := mem_activeRows.2 ⟨hrow, hactive⟩
    have hsame := h.1 _ (mem_loadSnapshotAccountsInner.2 ⟨row, hmem, rfl⟩)
    rcases loadSnapshotAccountById_eq_some_iff.1 hsame with ⟨row', hmem', hid, hevent⟩
    rw [AccountRow.snapshotAccount_id] at hid
    cases eq_of_id_eq hmem' hmem hid
    exact AccountRow.eventAccount_eq_snapshotAccount_iff.1 hevent
  · intro h
    constructor
    · intro account haccount
      rcases mem_loadSnapshotAccountsInner.1 haccount with ⟨row, hmem, rfl⟩
      have hrow := mem_activeRows.1 hmem
      have hevent := AccountRow.eventAccount_eq_snapshotAccount_iff.2 (h row hrow.1 hrow.2)
      rw [loadSnapshotAccountById_eq_some_iff]
      exact ⟨row, hmem, (AccountRow.snapshotAccount_id now row _).symm, hevent⟩
    · intro id hnone
      rw [Option.eq_none_iff_forall_ne_some]
      intro account haccount
      rcases loadSnapshotAccountById_eq_some_iff.1 haccount with ⟨row, hmem, hid, _⟩
      apply hnone _ (mem_loadSnapshotAccountsInner.2 ⟨row, hmem, rfl⟩)
      rw [AccountRow.snapshotAccount_id]
      exact hid

/-- A store whose credentials are kept as they are. -/
def sampleConfig : StoreConfig := { StoreConfig.plain with credentialCipher := some some }

def sampleCredential : CredentialRow where
  accessTokenEnc := "access"
  fallbackAccessTokenEnc := some "fallback"
  tokenExpiresAt := 0
  fallbackTokenExpiresAt := none
  lastRefreshStatus := .failed
  refreshReusedDetected := false
  lastRefreshErrorCode := some "upstream_unavailable"
  tokenFamilyId := some "family"

def sampleRow (enabled : Bool) : AccountRow where
  id := ⟨"a"⟩
  label := "a"
  mode := .codexOauth
  baseUrl := "https://upstream"
  bearerToken := "__managed_oauth__"
  chatgptAccountId := none
  authProvider := .oauthRefreshToken
  enabled := enabled
  poolState := .active
  priority := 100
  createdAt := 0
  credential := some sampleCredential
  rateLimit := none
  sessionProfile := none
  supportedModels := none

def sampleTable (enabled : Bool) : AccountTable := ⟨[sampleRow enabled], List.nodup_singleton _⟩

/-- The snapshot lists an account that was disabled with its access token, and the event with an
empty one. -/
theorem disabled_account_keeps_its_token :
    ¬ ∀ account ∈ (sampleTable false).loadSnapshotAccountsInner sampleConfig 10,
      (sampleTable false).loadSnapshotAccountById sampleConfig 10 account.id = some account := by
  decide +kernel

/-! ## Live tokens -/

/-- An account that was loaded, when it is an enabled one that the control plane refreshes, has a
live token. -/
def CarriesLiveToken (t : AccountTable) (cfg : StoreConfig) (now : DateTime)
    (account : UpstreamAccount) : Prop :=
  ∀ row ∈ t.activeRows, row.id = account.id → row.authProvider = .oauthRefreshToken →
    account.enabled = true →
      HasLiveToken now cfg.credentialCipher row.credential account.bearerToken

def PrefersLiveTokens (t : AccountTable) (cfg : StoreConfig) (now : DateTime) : Prop :=
  ∀ row ∈ t.activeRows, row.authProvider = .oauthRefreshToken →
    ¬ row.PrefersExpiredToken now cfg.credentialCipher

theorem snapshot_carriesLiveToken_iff :
    (∀ account ∈ t.loadSnapshotAccountsInner cfg now, t.CarriesLiveToken cfg now account) ↔
      t.PrefersLiveTokens cfg now := by
  constructor
  · intro h row hrow hoauth
    rw [← AccountRow.snapshotAccount_live_iff hoauth]
    apply h _ (mem_loadSnapshotAccountsInner.2 ⟨row, hrow, rfl⟩) row hrow _ hoauth
    exact (AccountRow.snapshotAccount_id now row _).symm
  · intro h account haccount row hrow hid hoauth
    rcases mem_loadSnapshotAccountsInner.1 haccount with ⟨row', hrow', rfl⟩
    rw [AccountRow.snapshotAccount_id] at hid
    cases eq_of_id_eq hrow hrow' hid
    exact (AccountRow.snapshotAccount_live_iff hoauth).2 (h row hrow hoauth)

theorem event_carriesLiveToken_iff :
    (∀ id, ∀ account ∈ t.loadSnapshotAccountById cfg now id, t.CarriesLiveToken cfg now account) ↔
      t.PrefersLiveTokens cfg now := by
  constructor
  · intro h row hrow hoauth
    rw [← AccountRow.eventAccount_live_iff hoauth]
    apply h row.id _ (loadSnapshotAccountById_eq_some_iff.2 ⟨row, hrow, rfl, rfl⟩) row hrow _ hoauth
    exact (AccountRow.eventAccount_id now row _).symm
  · intro h id account haccount row hrow hid hoauth
    rcases loadSnapshotAccountById_eq_some_iff.1 haccount with ⟨row', hrow', _, rfl⟩
    rw [AccountRow.eventAccount_id] at hid
    cases eq_of_id_eq hrow hrow' hid
    exact (AccountRow.eventAccount_live_iff hoauth).2 (h row hrow hoauth)

end AccountTable

end CodexPool
