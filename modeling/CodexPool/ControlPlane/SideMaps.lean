import CodexPool.ControlPlane.AccountMaps
import CodexPool.ControlPlane.OAuthWorld

/-!
# Entries of accounts that exist

The maps beside that of the accounts have an entry only for accounts that exist. Three ways of
deleting an account leave different maps alone, and reports are written for whatever account they
name. Which steps keep the maps together is told exactly.
-/

namespace CodexPool

inductive AccountMapsOp where
  | createUpstreamAccount (req : CreateUpstreamAccountRequest) (newId : Uuid) (now : DateTime)
  | upsertOneTimeSessionAccount (req : UpsertOneTimeSessionAccountRequest) (newId : Uuid)
      (now : DateTime)
  | storeTokens (call : OAuthStore.UpsertCall) (info : OAuthTokenInfo)
      (draw : OAuthStore.UpsertDraw)
  | materializeReady (record : OAuthRefreshTokenVaultRecord) (newId : Uuid) (now : DateTime)
  | dedupeOauthAccountsByIdentity (accountUserId userId accountId : Option String)
  | deleteUpstreamAccount (accountId : Uuid)
  | purgeExpiredOneTimeAccounts (now : DateTime)
  | markAccountSeenOk (accountId : Uuid) (seenOkAt : DateTime) (minWriteInterval : Int)
  | recordUpstreamAccountLiveResult (report : LiveResultReport) (now : DateTime)
  | recordAccountModelSupport (accountId : Uuid) (supportedModels : List String)
  | refreshRateLimitTarget (accountId : Uuid)
      (answer : Except (String × String) OAuthUsageSnapshot) (fetchedAt now : DateTime)
  | startRuntimeProbe (accountId : Uuid) (now : DateTime)
  | finishRuntimeProbe (call : RuntimeProbeCall)
      (answer : Except OAuthTokenClientError OAuthUsageSnapshot) (now : DateTime)
  | accountPoolStateRecord (accountId : Uuid) (now : DateTime)

namespace AccountMaps

/-- The store is left as it is by a call that is refused. -/
def commit (w : AccountMaps) : Result AccountMaps → AccountMaps
  | .ok w' => w'
  | .error _ => w

def step (cfg : AccountMapsConfig) (w : AccountMaps) : AccountMapsOp → AccountMaps
  | .createUpstreamAccount req newId now => w.createUpstreamAccountInner cfg req newId now
  | .upsertOneTimeSessionAccount req newId now =>
    w.commit (w.upsertOneTimeSessionAccountInner cfg req newId now)
  | .storeTokens call info draw => w.storeTokens cfg call info draw
  | .materializeReady record newId now =>
    w.commit ((w.materializeReadyOauthVaultRecordInner cfg record newId now).map (·.2))
  | .dedupeOauthAccountsByIdentity accountUserId userId accountId =>
    w.dedupeOauthAccountsByIdentityInner accountUserId userId accountId
  | .deleteUpstreamAccount accountId => w.commit (w.deleteUpstreamAccountInner accountId)
  | .purgeExpiredOneTimeAccounts now => w.purgeExpiredOneTimeAccountsInner now
  | .markAccountSeenOk accountId seenOkAt minWriteInterval =>
    (w.markAccountSeenOkInner accountId seenOkAt minWriteInterval).2
  | .recordUpstreamAccountLiveResult report now =>
    w.commit ((w.recordUpstreamAccountLiveResultInner cfg report now).map (·.2))
  | .recordAccountModelSupport accountId supportedModels =>
    w.recordAccountModelSupport accountId supportedModels
  | .refreshRateLimitTarget accountId answer fetchedAt now =>
    w.refreshRateLimitTarget cfg accountId answer fetchedAt now
  | .startRuntimeProbe accountId now => (w.startRuntimeProbe cfg accountId now).2
  | .finishRuntimeProbe call answer now => w.finishRuntimeProbe cfg call answer now
  | .accountPoolStateRecord accountId now => w.accountPoolStateRecordInner accountId now

variable (w : AccountMaps)

/-- One of the maps has an entry for the account. -/
def isKey (id : Uuid) : Bool :=
  (w.oauth.providers id).isSome || (w.oauth.credentials id).isSome ||
    (w.oauth.sessionProfiles id).isSome || (w.oauth.healthStates id).isSome ||
      (w.modelSupport id).isSome || (w.rateLimitCaches id).isSome

def SideMapsLive : Prop := ∀ id, w.isKey id = true → id ∈ w.oauth.ids

/-- What is deleted has no entry in a map that is not cleaned, and what is written to without a
check is an account. -/
def KeepsLive : AccountMapsOp → Prop
  | .deleteUpstreamAccount accountId => accountId ∈ w.oauth.ids → w.modelSupport accountId = none
  | .dedupeOauthAccountsByIdentity accountUserId userId accountId =>
    ∀ id, w.isDuplicate accountUserId userId accountId id = true → w.modelSupport id = none
  | .purgeExpiredOneTimeAccounts now =>
    ∀ id, w.isExpiredOneTime now id = true →
      w.oauth.healthStates id = none ∧ w.modelSupport id = none
  | .markAccountSeenOk accountId _ _ | .recordAccountModelSupport accountId _
  | .refreshRateLimitTarget accountId _ _ _ | .accountPoolStateRecord accountId _ =>
    accountId ∈ w.oauth.ids
  | .finishRuntimeProbe call _ _ => call.accountId ∈ w.oauth.ids
  | _ => True

/-! ## Writes for one account -/

/-- The accounts are the same, and entries are written for one account only. -/
structure Touches (accountId : Uuid) (w w' : AccountMaps) : Prop where
  ids : w'.oauth.ids = w.oauth.ids
  others : ∀ id, id ≠ accountId → w'.isKey id = w.isKey id
  kept : w.isKey accountId = true → w'.isKey accountId = true

/-- The account is added or was there, and entries are written for it only. -/
structure Adds (accountId : Uuid) (w w' : AccountMaps) : Prop where
  ids : ∀ id, id ∈ w'.oauth.ids ↔ id = accountId ∨ id ∈ w.oauth.ids
  others : ∀ id, id ≠ accountId → w'.isKey id = w.isKey id

variable {w} {w' w'' : AccountMaps} {accountId : Uuid}

theorem Touches.refl (accountId : Uuid) (w : AccountMaps) : Touches accountId w w :=
  ⟨rfl, fun _ _ => rfl, id⟩

theorem Touches.trans (h : Touches accountId w w') (h' : Touches accountId w' w'') :
    Touches accountId w w'' where
  ids := h'.ids.trans h.ids
  others id hid := (h'.others id hid).trans (h.others id hid)
  kept hkey := h'.kept (h.kept hkey)

theorem Adds.touches (h : Adds accountId w w') (h' : Touches accountId w' w'') :
    Adds accountId w w'' where
  ids id := by
    rw [h'.ids]
    exact h.ids id
  others id hid := (h'.others id hid).trans (h.others id hid)

theorem Touches.adds (h : Touches accountId w w') (haccount : accountId ∈ w.oauth.ids) :
    Adds accountId w w' where
  ids id := by
    rw [h.ids]
    refine (or_iff_right_of_imp ?_).symm
    intro hid
    rwa [hid]
  others := h.others

theorem Adds.sideMapsLive (h : Adds accountId w w') (hlive : w.SideMapsLive) :
    w'.SideMapsLive := by
  intro id hkey
  rw [h.ids]
  by_cases hid : id = accountId
  · exact .inl hid
  · rw [h.others id hid] at hkey
    exact .inr (hlive id hkey)

theorem Touches.sideMapsLive_iff (h : Touches accountId w w') (hlive : w.SideMapsLive)
    (hkey : w'.isKey accountId = true) : w'.SideMapsLive ↔ accountId ∈ w.oauth.ids := by
  constructor
  · intro hlive'
    rw [← h.ids]
    exact hlive' accountId hkey
  · intro haccount
    exact (h.adds haccount).sideMapsLive hlive

section Writes

variable (w) (accountId : Uuid)

theorem touches_updateAccount (f : UpstreamAccount → UpstreamAccount) (hf : ∀ a, (f a).id = a.id) :
    Touches accountId w (w.withOauth (w.oauth.updateAccount accountId f)) where
  ids := OAuthStore.ids_updateAccount f hf accountId
  others _ _ := rfl
  kept := id

theorem adds_insertAccount (account : UpstreamAccount) :
    Adds account.id w (w.withOauth (w.oauth.insertAccount account)) where
  ids id := by
    change id ∈ (Keyed.upsertBy UpstreamAccount.id account w.oauth.accounts).map (·.id) ↔
      id = account.id ∨ id ∈ w.oauth.accounts.map (·.id)
    rw [Keyed.map_key_upsertBy]
    by_cases hmem : account.id ∈ w.oauth.accounts.map (·.id)
    · rw [if_pos hmem]
      refine (or_iff_right_of_imp ?_).symm
      intro hid
      rwa [hid]
    · rw [if_neg hmem, List.mem_append, List.mem_singleton]
      exact or_comm
  others _ _ := rfl

theorem isKey_setProvider (provider : UpstreamAuthProvider) :
    (w.withOauth (w.oauth.setProvider accountId provider)).isKey accountId = true := by
  simp only [isKey, withOauth, OAuthStore.setProvider, Function.update_self, Option.isSome_some,
    Bool.true_or]

theorem touches_setProvider (provider : UpstreamAuthProvider) :
    Touches accountId w (w.withOauth (w.oauth.setProvider accountId provider)) where
  ids := rfl
  others id hid := by
    simp only [isKey, withOauth, OAuthStore.setProvider, Function.update_of_ne hid]
  kept _ := isKey_setProvider w accountId _

theorem isKey_upsertOauthCredential (credential : OAuthCredentialRecord) :
    (w.withOauth (w.oauth.upsertOauthCredential accountId credential)).isKey accountId = true := by
  simp only [isKey, withOauth, OAuthStore.upsertOauthCredential, Function.update_self,
    Option.isSome_some,
    Bool.or_true, Bool.true_or]

theorem touches_upsertOauthCredential (credential : OAuthCredentialRecord) :
    Touches accountId w (w.withOauth (w.oauth.upsertOauthCredential accountId credential)) where
  ids := rfl
  others id hid := by
    simp only [isKey, withOauth, OAuthStore.upsertOauthCredential, Function.update_of_ne hid]
  kept _ := isKey_upsertOauthCredential w accountId _

theorem isKey_upsertSessionProfile (profile : SessionProfileRecord) :
    (w.withOauth (w.oauth.upsertSessionProfile accountId profile)).isKey accountId = true := by
  simp only [isKey, withOauth, OAuthStore.upsertSessionProfile, Function.update_self,
    Option.isSome_some,
    Bool.or_true, Bool.true_or]

theorem touches_upsertSessionProfile (profile : SessionProfileRecord) :
    Touches accountId w (w.withOauth (w.oauth.upsertSessionProfile accountId profile)) where
  ids := rfl
  others id hid := by
    simp only [isKey, withOauth, OAuthStore.upsertSessionProfile, Function.update_of_ne hid]
  kept _ := isKey_upsertSessionProfile w accountId _

theorem isKey_setHealthState (state : UpstreamAccountHealthStateRecord) :
    (w.withOauth (w.oauth.setHealthState accountId state)).isKey accountId = true := by
  simp only [isKey, withOauth, OAuthStore.setHealthState, Function.update_self, Option.isSome_some,
    Bool.or_true, Bool.true_or]

theorem touches_setHealthState (state : UpstreamAccountHealthStateRecord) :
    Touches accountId w (w.withOauth (w.oauth.setHealthState accountId state)) where
  ids := rfl
  others id hid := by
    simp only [isKey, withOauth, OAuthStore.setHealthState, Function.update_of_ne hid]
  kept _ := isKey_setHealthState w accountId _

theorem isKey_setLiveSignals (signals : AccountLiveSignals) :
    (w.setLiveSignals accountId signals).isKey accountId = true := by
  simp only [isKey, setLiveSignals, OAuthStore.setHealthState, Function.update_self,
    Option.isSome_some,
    Bool.or_true, Bool.true_or]

theorem touches_setLiveSignals (signals : AccountLiveSignals) :
    Touches accountId w (w.setLiveSignals accountId signals) where
  ids := rfl
  others id hid := by
    simp only [isKey, setLiveSignals, OAuthStore.setHealthState, Function.update_of_ne hid]
  kept _ := isKey_setLiveSignals w accountId _

theorem isKey_setRateLimitCache (cache : OAuthRateLimitCacheRecord) :
    (w.setRateLimitCache accountId cache).isKey accountId = true := by
  simp only [isKey, setRateLimitCache, Function.update_self, Option.isSome_some, Bool.or_true]

theorem touches_setRateLimitCache (cache : OAuthRateLimitCacheRecord) :
    Touches accountId w (w.setRateLimitCache accountId cache) where
  ids := rfl
  others id hid := by
    simp only [isKey, setRateLimitCache, Function.update_of_ne hid]
  kept _ := isKey_setRateLimitCache w accountId _

theorem isKey_recordAccountModelSupport (supportedModels : List String) :
    (w.recordAccountModelSupport accountId supportedModels).isKey accountId = true := by
  simp only [isKey, recordAccountModelSupport, Function.update_self, Option.isSome_some,
    Bool.or_true, Bool.true_or]

theorem touches_recordAccountModelSupport (supportedModels : List String) :
    Touches accountId w (w.recordAccountModelSupport accountId supportedModels) where
  ids := rfl
  others id hid := by
    simp only [isKey, recordAccountModelSupport, Function.update_of_ne hid]
  kept _ := isKey_recordAccountModelSupport w accountId _

end Writes

/-! ## Accounts that are stored -/

section Stored

variable {cfg : AccountMapsConfig} {account : UpstreamAccount}

theorem mem_ids_of_account? {accountId : Uuid} (h : w.oauth.account? accountId = some account) :
    account.id ∈ w.oauth.ids ∧ account.id = accountId :=
  ⟨OAuthStore.mem_ids (List.mem_of_find?_eq_some h), Keyed.key_of_lookupBy h⟩

variable (w)

theorem touches_setPlanType (accountId : Uuid) (chatgptPlanType : Option String) :
    Touches accountId w (w.setPlanType accountId chatgptPlanType) := by
  unfold setPlanType
  split
  · exact touches_upsertSessionProfile w accountId _
  · exact Touches.refl accountId w

variable (cfg) in
theorem touches_persistRateLimitCacheSuccessInner (accountId : Uuid)
    (rateLimits : List OAuthRateLimitSnapshot) (fetchedAt : DateTime)
    (chatgptPlanType : Option String) :
    Touches accountId w (w.persistRateLimitCacheSuccessInner cfg accountId rateLimits fetchedAt
      chatgptPlanType) :=
  (touches_setRateLimitCache w accountId _).trans (touches_setPlanType _ accountId _)

variable (cfg) in
theorem isKey_persistRateLimitCacheSuccessInner (accountId : Uuid)
    (rateLimits : List OAuthRateLimitSnapshot) (fetchedAt : DateTime)
    (chatgptPlanType : Option String) :
    (w.persistRateLimitCacheSuccessInner cfg accountId rateLimits fetchedAt
      chatgptPlanType).isKey accountId = true :=
  (touches_setPlanType _ accountId chatgptPlanType).kept (isKey_setRateLimitCache w accountId _)

variable (cfg) in
theorem touches_refreshRateLimitTarget (accountId : Uuid)
    (answer : Except (String × String) OAuthUsageSnapshot) (fetchedAt now : DateTime) :
    Touches accountId w (w.refreshRateLimitTarget cfg accountId answer fetchedAt now) := by
  cases answer with
  | ok usage => exact touches_persistRateLimitCacheSuccessInner w cfg accountId _ _ _
  | error e => exact touches_setRateLimitCache w accountId _

variable (cfg) in
theorem isKey_refreshRateLimitTarget (accountId : Uuid)
    (answer : Except (String × String) OAuthUsageSnapshot) (fetchedAt now : DateTime) :
    (w.refreshRateLimitTarget cfg accountId answer fetchedAt now).isKey accountId = true := by
  cases answer with
  | ok usage => exact isKey_persistRateLimitCacheSuccessInner w cfg accountId _ _ _
  | error e => exact isKey_setRateLimitCache w accountId _

theorem adds_create (req : CreateUpstreamAccountRequest) (newId : Uuid) (now : DateTime) :
    Adds newId w (w.createUpstreamAccountInner cfg req newId now) :=
  (adds_insertAccount w (createdAccount cfg req newId now)).touches
    (touches_setProvider _ newId _)

theorem adds_upsertOneTime (req : UpsertOneTimeSessionAccountRequest) (newId : Uuid)
    (now : DateTime) (h : w.upsertOneTimeSessionAccountInner cfg req newId now = .ok w') :
    ∃ accountId, Adds accountId w w' := by
  unfold upsertOneTimeSessionAccountInner at h
  dsimp only at h
  split at h
  · cases h
  · split at h
    · rename_i matched hfind
      have hmatched := OAuthStore.mem_ids (List.mem_of_find?_eq_some hfind)
      rw [← Except.ok.inj h]
      refine ⟨matched.id, Touches.adds ?_ hmatched⟩
      have hupdate := touches_updateAccount w matched.id
        (fun old => oneTimeAccount cfg req old.id old.createdAt) fun _ => rfl
      exact (hupdate.trans (touches_setProvider _ matched.id _)).trans
        (touches_upsertSessionProfile _ matched.id _)
    · rw [← Except.ok.inj h]
      refine ⟨newId, ?_⟩
      exact ((adds_insertAccount w (oneTimeAccount cfg req newId now)).touches
        (touches_setProvider _ newId _)).touches (touches_upsertSessionProfile _ newId _)

variable (cfg) in
/-- The tokens of an import go to an account that exists or is added. -/
theorem adds_storeTokens (call : OAuthStore.UpsertCall) (info : OAuthTokenInfo)
    (draw : OAuthStore.UpsertDraw) :
    (w.storeTokens cfg call info draw = w) ∨
      ∃ accountId, Adds accountId w (w.storeTokens cfg call info draw) := by
  unfold storeTokens OAuthStore.storeTokens
  split
  · split
    · exact .inl rfl
    · rename_i account haccount
      right
      have hmem := (mem_ids_of_account? haccount).1
      refine ⟨account.id, Touches.adds ?_ hmem⟩
      have hupdate := touches_updateAccount w account.id (OAuthStore.updatedAccount call info)
        fun _ => rfl
      unfold OAuthStore.updateMatched
      dsimp only
      split
      · exact hupdate
      · exact ((hupdate.trans (touches_setProvider _ account.id _)).trans
          (touches_upsertOauthCredential _ account.id _)).trans
            (touches_upsertSessionProfile _ account.id _)
  · unfold OAuthStore.importOauthRefreshTokenWithTokenInfoInner
    split
    · exact .inl rfl
    · right
      refine ⟨(OAuthStore.importedAccount call info draw).id, ?_⟩
      exact (((adds_insertAccount w (OAuthStore.importedAccount call info draw)).touches
        (touches_setProvider _ _ _)).touches (touches_upsertOauthCredential _ _ _)).touches
          (touches_upsertSessionProfile _ _ _)

theorem adds_storeReady (record : OAuthRefreshTokenVaultRecord) (accessTokenEnc : String)
    (tokenExpiresAt : DateTime) (newId : Uuid) (now : DateTime) :
    Adds (w.oauth.storeReady record accessTokenEnc tokenExpiresAt newId now).1.id w
      (w.withOauth (w.oauth.storeReady record accessTokenEnc tokenExpiresAt newId now).2) := by
  unfold OAuthStore.storeReady
  split
  · rename_i matched hmatched
    have hoauth := (OAuthStore.matchedOauthAccountIdForVaultRecord_eq_some hmatched).1
    have hmem := OAuthStore.mem_ids (OAuthStore.mem_oauthAccounts.1 hoauth).1
    refine Touches.adds ?_ hmem
    exact (((touches_updateAccount w matched.id (OAuthStore.readyAccount record)
      fun _ => rfl).trans (touches_setProvider _ matched.id _)).trans
        (touches_upsertOauthCredential _ matched.id _)).trans
          (touches_upsertSessionProfile _ matched.id _)
  · exact (((adds_insertAccount w (OAuthStore.newReadyAccount record newId now)).touches
      (touches_setProvider _ _ _)).touches (touches_upsertOauthCredential _ _ _)).touches
        (touches_upsertSessionProfile _ _ _)

theorem adds_materializeReady (record : OAuthRefreshTokenVaultRecord) (newId : Uuid)
    (now : DateTime) {made : UpstreamAccount × AccountMaps}
    (h : w.materializeReadyOauthVaultRecordInner cfg record newId now = .ok made) :
    Adds made.1.id w made.2 := by
  simp only [materializeReadyOauthVaultRecordInner, Result.bind_eq_ok, pure, Except.pure] at h
  rcases h with ⟨⟨account, oauth⟩, hready, hmade⟩
  have hstored : Adds account.id w (w.withOauth oauth) := by
    unfold OAuthStore.materializeReadyOauthVaultRecordInner at hready
    split at hready
    · cases hready
    · rename_i accessTokenEnc _
      simp only [Result.bind_eq_ok] at hready
      rcases hready with ⟨tokenExpiresAt, -, hready⟩
      split at hready
      · cases hready
      · rcases Prod.mk.inj (Except.ok.inj hready) with ⟨haccount, hoauth⟩
        rw [← haccount, ← hoauth]
        exact ((adds_storeReady w record accessTokenEnc tokenExpiresAt newId now).touches
          (touches_setHealthState _ _ _)).touches (touches_setHealthState _ _ _)
  rw [← Except.ok.inj hmade]
  dsimp only
  split
  · exact hstored
  · exact hstored.touches (touches_persistRateLimitCacheSuccessInner _ cfg account.id _ _ _)

end Stored

/-! ## Results and probes -/

section Reports

variable {cfg : AccountMapsConfig}

theorem touches_markPendingPurge {reason : Option String} {now : DateTime}
    (h : w.markUpstreamAccountPendingPurgeInner cfg accountId reason now = .ok w') :
    Touches accountId w w' := by
  unfold markUpstreamAccountPendingPurgeInner at h
  split at h
  · cases h
  · rename_i account haccount
    rw [← Except.ok.inj h]
    unfold OAuthStore.markUpstreamAccountPendingPurgeInner
    rw [haccount]
    have hdisable := touches_updateAccount w accountId (fun a => { a with enabled := false })
      fun _ => rfl
    exact hdisable.trans (touches_setHealthState _ accountId _)

theorem touches_setQuarantine {at' : DateTime} {until' : Option DateTime} {reason : Option String}
    (h : w.setAccountPoolStateQuarantineInner accountId at' until' reason = .ok w') :
    Touches accountId w w' := by
  unfold setAccountPoolStateQuarantineInner at h
  split at h
  · cases h
  · rw [← Except.ok.inj h]
    exact touches_setHealthState w accountId _

variable (w) in
theorem touches_markAccountSeenOkInner (accountId : Uuid) (seenOkAt : DateTime)
    (minWriteInterval : Int) :
    Touches accountId w (w.markAccountSeenOkInner accountId seenOkAt minWriteInterval).2 ∧
      (w.markAccountSeenOkInner accountId seenOkAt minWriteInterval).2.isKey accountId = true := by
  unfold markAccountSeenOkInner
  dsimp only
  split
  · exact ⟨touches_setLiveSignals w accountId _, isKey_setLiveSignals w accountId _⟩
  · exact ⟨touches_setLiveSignals w accountId _, isKey_setLiveSignals w accountId _⟩

theorem touches_recordTokenInvalidatedStrike {reportedAt : DateTime} {struck : Bool × AccountMaps}
    (h : w.recordTokenInvalidatedStrikeInner cfg accountId reportedAt = .ok struck) :
    Touches accountId w struck.2 := by
  unfold recordTokenInvalidatedStrikeInner at h
  split at h
  · cases h
  · rw [← Except.ok.inj h]
    exact touches_setLiveSignals w accountId _

theorem touches_applyTokenInvalidated {reportedAt now : DateTime}
    (h : w.applyTokenInvalidated cfg accountId reportedAt now = .ok w') :
    Touches accountId w w' := by
  simp only [applyTokenInvalidated, Result.bind_eq_ok] at h
  rcases h with ⟨⟨purge, struck⟩, hstrike, happly⟩
  apply (touches_recordTokenInvalidatedStrike hstrike).trans
  dsimp only at happly ⊢
  split at happly
  · exact touches_markPendingPurge happly
  · exact touches_setQuarantine happly

theorem touches_applyFailedLiveResult {report : LiveResultReport} {now : DateTime}
    {applied : Bool × AccountMaps} (h : w.applyFailedLiveResult cfg report now = .ok applied) :
    Touches report.accountId w applied.2 := by
  have hreset := touches_setLiveSignals w report.accountId { w.liveSignals report.accountId with
    tokenInvalidatedStrikeCount := 0
    tokenInvalidatedFirstAt := none }
  unfold applyFailedLiveResult at h
  dsimp only at h
  split at h
  · simp only [Result.bind_eq_ok, pure, Except.pure] at h
    rcases h with ⟨w', hmark, hdone⟩
    rw [← Except.ok.inj hdone]
    exact hreset.trans (touches_markPendingPurge hmark)
  · split at h
    · simp only [Result.bind_eq_ok, pure, Except.pure] at h
      rcases h with ⟨w', hquarantine, hdone⟩
      rw [← Except.ok.inj hdone]
      exact hreset.trans (touches_setQuarantine hquarantine)
    · split at h
      · simp only [Result.bind_eq_ok, pure, Except.pure] at h
        rcases h with ⟨w', hquarantine, hdone⟩
        rw [← Except.ok.inj hdone]
        exact hreset.trans (touches_setQuarantine hquarantine)
      · split at h
        · simp only [Result.bind_eq_ok, pure, Except.pure] at h
          rcases h with ⟨w', happly, hdone⟩
          rw [← Except.ok.inj hdone]
          exact touches_applyTokenInvalidated happly
        · rw [← Except.ok.inj h]
          exact hreset

theorem touches_recordLiveResult {report : LiveResultReport} {now : DateTime}
    {recorded : Bool × AccountMaps}
    (h : w.recordUpstreamAccountLiveResultInner cfg report now = .ok recorded) :
    report.accountId ∈ w.oauth.ids ∧ Touches report.accountId w recorded.2 := by
  unfold recordUpstreamAccountLiveResultInner at h
  split at h
  · cases h
  · rename_i account haccount
    rcases mem_ids_of_account? haccount with ⟨hmem, hid⟩
    rw [hid] at hmem
    refine ⟨hmem, ?_⟩
    have hnoted : Touches report.accountId w (w.noteLiveResult report) :=
      touches_setLiveSignals w report.accountId _
    dsimp only at h
    split at h
    · rw [← Except.ok.inj h]
      exact (hnoted.trans (touches_markAccountSeenOkInner _ report.accountId _ _).1).trans
        (touches_setHealthState _ report.accountId _)
    · exact hnoted.trans (touches_applyFailedLiveResult h)

variable (cfg w) in
theorem touches_concludeProbe (accountId : Uuid) (checkedAt : DateTime)
    (outcome : AccountProbeOutcome) (reasonCode : String) (retryAfter : Option DateTime)
    (now : DateTime) :
    Touches accountId w
      (w.concludeProbe cfg accountId checkedAt outcome reasonCode retryAfter now) := by
  have hrecorded : Touches accountId w
      (w.recordAccountProbeResultInner accountId checkedAt outcome) :=
    touches_setHealthState w accountId _
  unfold concludeProbe
  dsimp only
  split
  · rename_i w' happly
    refine hrecorded.trans ?_
    unfold applyProbeOutcome at happly
    split at happly
    · rw [← Except.ok.inj happly]
      exact touches_setHealthState _ accountId _
    · exact touches_markPendingPurge happly
    · exact touches_setQuarantine happly
    · exact touches_setQuarantine happly
  · exact hrecorded

theorem touches_concludeProbe_of (h : Touches accountId w w') (hkey : w'.isKey accountId = true)
    (checkedAt : DateTime) (outcome : AccountProbeOutcome) (reasonCode : String)
    (retryAfter : Option DateTime) (now : DateTime) :
    Touches accountId w
        (w'.concludeProbe cfg accountId checkedAt outcome reasonCode retryAfter now) ∧
      (w'.concludeProbe cfg accountId checkedAt outcome reasonCode retryAfter now).isKey accountId =
        true := by
  have hconcluded := touches_concludeProbe w' cfg accountId checkedAt outcome reasonCode retryAfter
    now
  exact ⟨h.trans hconcluded, hconcluded.kept hkey⟩

variable (cfg w) in
theorem touches_finishRuntimeProbe (call : RuntimeProbeCall)
    (answer : Except OAuthTokenClientError OAuthUsageSnapshot) (now : DateTime) :
    Touches call.accountId w (w.finishRuntimeProbe cfg call answer now) ∧
      (w.finishRuntimeProbe cfg call answer now).isKey call.accountId = true := by
  unfold finishRuntimeProbe
  cases answer with
  | ok usage =>
      have hcached := touches_persistRateLimitCacheSuccessInner w cfg call.accountId
        usage.rateLimits call.checkedAt usage.chatgptPlanType
      have hkey := isKey_persistRateLimitCacheSuccessInner w cfg call.accountId
        usage.rateLimits call.checkedAt usage.chatgptPlanType
      dsimp only
      split
      · exact touches_concludeProbe_of hcached hkey _ _ _ _ _
      · exact touches_concludeProbe_of hcached hkey _ _ _ _ _
  | error err =>
      dsimp only
      unfold persistRateLimitCacheFailureInner
      exact touches_concludeProbe_of (touches_setRateLimitCache w call.accountId _)
        (isKey_setRateLimitCache w call.accountId _) _ _ _ _ _

variable (w) in
theorem touches_failDecryption (accountId : Uuid) (checkedAt : DateTime) (e : String)
    (now : DateTime) : Touches accountId w (w.failDecryption cfg accountId checkedAt e now) := by
  have hrecorded :
      Touches accountId w (w.recordAccountProbeResultInner accountId checkedAt .fatal) :=
    touches_setHealthState w accountId _
  unfold failDecryption
  dsimp only
  split
  · exact hrecorded
  · rename_i w' hmark
    exact (hrecorded.trans (touches_markPendingPurge hmark)).trans
      (touches_setRateLimitCache w' accountId _)

variable (w) in
theorem touches_startRuntimeProbe (accountId : Uuid) (now : DateTime) :
    (w.startRuntimeProbe cfg accountId now).2 = w ∨
      accountId ∈ w.oauth.ids ∧ Touches accountId w (w.startRuntimeProbe cfg accountId now).2 := by
  unfold startRuntimeProbe
  split
  · exact .inl rfl
  · rename_i account haccount
    rcases mem_ids_of_account? haccount with ⟨hmem, hid⟩
    rw [hid] at hmem
    split
    · exact .inl rfl
    · exact .inl rfl
    · split
      · exact .inl rfl
      · split
        · exact .inr ⟨hmem, touches_failDecryption w accountId now _ now⟩
        · exact .inl rfl

end Reports

/-! ## Deletions -/

/-- The accounts that are not deleted keep their entries. -/
structure Deletes (doomed : Uuid → Bool) (w w' : AccountMaps) : Prop where
  ids : ∀ id, id ∈ w'.oauth.ids ↔ id ∈ w.oauth.ids ∧ doomed id = false
  others : ∀ id, doomed id = false → w'.isKey id = w.isKey id

theorem Deletes.sideMapsLive_iff {doomed : Uuid → Bool} (h : Deletes doomed w w')
    (hlive : w.SideMapsLive) :
    w'.SideMapsLive ↔ ∀ id, doomed id = true → w'.isKey id = false := by
  constructor
  · intro hlive' id hdoomed
    by_contra hkey
    have hmem := (h.ids id).1 (hlive' id (Bool.not_eq_false _ ▸ hkey))
    rw [hdoomed] at hmem
    exact Bool.noConfusion hmem.2
  · intro hclean id hkey
    rw [h.ids]
    cases hdoomed : doomed id with
    | true =>
        rw [hclean id hdoomed] at hkey
        cases hkey
    | false =>
        rw [h.others id hdoomed] at hkey
        exact ⟨hlive id hkey, rfl⟩

variable (w) in
theorem deletes_removeAccounts (doomed : Uuid → Bool) :
    Deletes doomed w (w.removeAccounts doomed) where
  ids id := by
    change id ∈ (w.oauth.accounts.filter fun a => !doomed a.id).map (·.id) ↔
      id ∈ w.oauth.accounts.map (·.id) ∧ doomed id = false
    simp only [List.mem_map, List.mem_filter, Bool.not_eq_true']
    constructor
    · rintro ⟨a, ⟨ha, hkept⟩, rfl⟩
      exact ⟨⟨a, ha, rfl⟩, hkept⟩
    · rintro ⟨⟨a, ha, rfl⟩, hkept⟩
      exact ⟨a, ⟨ha, hkept⟩, rfl⟩
  others id hkept := by
    simp only [isKey, removeAccounts, hkept, Bool.false_eq_true, if_false]

theorem Deletes.removeHealthStates {doomed : Uuid → Bool} (h : Deletes doomed w w') :
    Deletes doomed w (w'.removeHealthStates doomed) where
  ids := h.ids
  others id hkept := by
    rw [← h.others id hkept]
    simp only [isKey, AccountMaps.removeHealthStates, hkept, Bool.false_eq_true, if_false]

variable (w) in
theorem isKey_removeAccounts {doomed : Uuid → Bool} {id : Uuid} (h : doomed id = true) :
    (w.removeAccounts doomed).isKey id = false ↔
      w.oauth.healthStates id = none ∧ w.modelSupport id = none := by
  simp only [isKey, removeAccounts, h, if_true, Option.isSome_none, Bool.false_or, Bool.or_false,
    Bool.or_eq_false_iff, Option.isSome_eq_false_iff, Option.isNone_iff_eq_none]

variable (w) in
theorem isKey_removeHealthStates {doomed : Uuid → Bool} {id : Uuid} (h : doomed id = true) :
    ((w.removeAccounts doomed).removeHealthStates doomed).isKey id = false ↔
      w.modelSupport id = none := by
  simp only [isKey, removeAccounts, removeHealthStates, h, if_true, Option.isSome_none,
    Bool.false_or, Bool.or_false, Option.isSome_eq_false_iff, Option.isNone_iff_eq_none]

theorem sideMapsLive_removeHealthStates_iff (hlive : w.SideMapsLive) (doomed : Uuid → Bool) :
    ((w.removeAccounts doomed).removeHealthStates doomed).SideMapsLive ↔
      ∀ id, doomed id = true → w.modelSupport id = none := by
  rw [(deletes_removeAccounts w doomed).removeHealthStates.sideMapsLive_iff hlive]
  exact forall₂_congr fun id hdoomed => isKey_removeHealthStates w hdoomed

theorem sideMapsLive_delete_iff (hlive : w.SideMapsLive) (accountId : Uuid) :
    (w.commit (w.deleteUpstreamAccountInner accountId)).SideMapsLive ↔
      (accountId ∈ w.oauth.ids → w.modelSupport accountId = none) := by
  unfold deleteUpstreamAccountInner
  split
  · rename_i hnone
    have hnot : accountId ∉ w.oauth.ids := Keyed.lookupBy_eq_none_iff.1 hnone
    exact iff_of_true hlive fun hmem => absurd hmem hnot
  · rename_i account haccount
    rcases mem_ids_of_account? haccount with ⟨hmem, hid⟩
    rw [hid] at hmem
    rw [commit, sideMapsLive_removeHealthStates_iff hlive]
    constructor
    · intro h _
      exact h accountId (decide_eq_true rfl)
    · intro h id hdoomed
      rw [of_decide_eq_true hdoomed]
      exact h hmem

/-! ## Steps -/

variable {cfg : AccountMapsConfig}

theorem sideMapsLive_commit (hlive : w.SideMapsLive) {result : Result AccountMaps}
    (h : ∀ w', result = .ok w' → w'.SideMapsLive) : (w.commit result).SideMapsLive := by
  cases result with
  | error e => exact hlive
  | ok w' => exact h w' rfl

theorem sideMapsLive_commit_map {α : Type} (hlive : w.SideMapsLive)
    {result : Result (α × AccountMaps)} (h : ∀ made, result = .ok made → made.2.SideMapsLive) :
    (w.commit (result.map (·.2))).SideMapsLive := by
  cases result with
  | error e => exact hlive
  | ok made => exact h made rfl

/-- A step keeps the maps together exactly when it meets its condition. -/
theorem sideMapsLive_step_iff (hlive : w.SideMapsLive) (op : AccountMapsOp) :
    (w.step cfg op).SideMapsLive ↔ w.KeepsLive op := by
  cases op with
  | createUpstreamAccount req newId now =>
      exact iff_of_true ((adds_create w req newId now).sideMapsLive hlive) trivial
  | upsertOneTimeSessionAccount req newId now =>
      refine iff_of_true (sideMapsLive_commit hlive fun w' hupsert => ?_) trivial
      rcases adds_upsertOneTime w req newId now hupsert with ⟨accountId, hadds⟩
      exact hadds.sideMapsLive hlive
  | storeTokens call info draw =>
      refine iff_of_true ?_ trivial
      change (w.storeTokens cfg call info draw).SideMapsLive
      rcases adds_storeTokens w cfg call info draw with hsame | ⟨accountId, hadds⟩
      · rw [hsame]
        exact hlive
      · exact hadds.sideMapsLive hlive
  | materializeReady record newId now =>
      refine iff_of_true (sideMapsLive_commit_map hlive fun made hready => ?_) trivial
      exact (adds_materializeReady w record newId now hready).sideMapsLive hlive
  | dedupeOauthAccountsByIdentity accountUserId userId accountId =>
      exact sideMapsLive_removeHealthStates_iff hlive _
  | deleteUpstreamAccount accountId => exact sideMapsLive_delete_iff hlive accountId
  | purgeExpiredOneTimeAccounts now =>
      apply ((deletes_removeAccounts w (w.isExpiredOneTime now)).sideMapsLive_iff hlive).trans
      exact forall₂_congr fun id hdoomed => isKey_removeAccounts w hdoomed
  | markAccountSeenOk accountId seenOkAt minWriteInterval =>
      have hseen := touches_markAccountSeenOkInner w accountId seenOkAt minWriteInterval
      exact hseen.1.sideMapsLive_iff hlive hseen.2
  | recordUpstreamAccountLiveResult report now =>
      refine iff_of_true (sideMapsLive_commit_map hlive fun recorded hrecord => ?_) trivial
      rcases touches_recordLiveResult hrecord with ⟨hmem, htouches⟩
      exact (htouches.adds hmem).sideMapsLive hlive
  | recordAccountModelSupport accountId supportedModels =>
      exact (touches_recordAccountModelSupport w accountId supportedModels).sideMapsLive_iff hlive
        (isKey_recordAccountModelSupport w accountId supportedModels)
  | refreshRateLimitTarget accountId answer fetchedAt now =>
      exact (touches_refreshRateLimitTarget w cfg accountId answer fetchedAt now).sideMapsLive_iff
        hlive (isKey_refreshRateLimitTarget w cfg accountId answer fetchedAt now)
  | startRuntimeProbe accountId now =>
      refine iff_of_true ?_ trivial
      change (w.startRuntimeProbe cfg accountId now).2.SideMapsLive
      rcases touches_startRuntimeProbe w accountId now with hsame | ⟨hmem, htouches⟩
      · rw [hsame]
        exact hlive
      · exact (htouches.adds hmem).sideMapsLive hlive
  | finishRuntimeProbe call answer now =>
      have hfinish := touches_finishRuntimeProbe w cfg call answer now
      exact hfinish.1.sideMapsLive_iff hlive hfinish.2
  | accountPoolStateRecord accountId now =>
      exact (touches_setHealthState w accountId _).sideMapsLive_iff hlive
        (isKey_setHealthState w accountId _)

/-- The maps have entries for accounts that exist only, in all states of a run, exactly when no
step of the run leaves or makes another one. -/
theorem sideMapsLive_along_iff (hlive : w.SideMapsLive) (ops : List AccountMapsOp) :
    (∀ pre, pre <+: ops → (Machine.run (step cfg) w pre).SideMapsLive) ↔
      Machine.Along (step cfg) KeepsLive w ops :=
  Machine.along_iff_prefixes (P := fun _ => True) (Q := SideMapsLive) (fun _ _ _ => trivial)
    (fun _ op _ hlive => sideMapsLive_step_iff hlive op) trivial hlive ops

/-! ## Sample runs -/

theorem sideMapsLive_new : new.SideMapsLive := fun _ hkey => Bool.noConfusion hkey

def sampleCreateRequest : CreateUpstreamAccountRequest where
  label := "a"
  mode := .openAiApiKey
  baseUrl := "https://api.openai.com/v1"
  bearerToken := "sk"
  chatgptAccountId := none
  enabled := none
  priority := none

theorem sideMapsLive_along_seen :
    (∀ pre, pre <+: [.createUpstreamAccount sampleCreateRequest ⟨"a"⟩ 0,
        .markAccountSeenOk ⟨"a"⟩ 1 0, .deleteUpstreamAccount ⟨"a"⟩] →
      (Machine.run (step sampleMapsConfig) new pre).SideMapsLive) ↔
    Machine.Along (step sampleMapsConfig) KeepsLive new
      [.createUpstreamAccount sampleCreateRequest ⟨"a"⟩ 0, .markAccountSeenOk ⟨"a"⟩ 1 0,
        .deleteUpstreamAccount ⟨"a"⟩] :=
  sideMapsLive_along_iff sideMapsLive_new _

/-- The models of an account outlive it. -/
theorem model_support_is_left : ¬ ∀ cfg ops,
    (Machine.run (step cfg) new ops).SideMapsLive := by
  intro h
  have hlive := h sampleMapsConfig [.createUpstreamAccount sampleCreateRequest ⟨"a"⟩ 0,
    .recordAccountModelSupport ⟨"a"⟩ ["gpt-5"], .deleteUpstreamAccount ⟨"a"⟩]
  have hmem := hlive ⟨"a"⟩ (by decide +kernel)
  revert hmem
  decide +kernel

end AccountMaps

end CodexPool
