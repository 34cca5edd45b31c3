import CodexPool.ControlPlane.LiveReports
import CodexPool.Lib.Paging
import Mathlib.Data.Prod.Lex
import Mathlib.Data.String.Basic
import Mathlib.Order.WithBot

/-!
# Standing of an account

The standing of an account is whether it is enabled and where it is in the pool. The flag and the
state are kept in two maps, and six operations write to one of the maps or to both. Each step
changes the standing of an account in one of five ways.
-/

namespace CodexPool

/-! ## Steps -/

inductive PoolOp where
  | maps (op : AccountMapsOp)
  | setUpstreamAccountEnabled (accountId : Uuid) (enabled : Bool) (now : DateTime)
  | setOauthFamilyEnabled (accountId : Uuid) (enabled : Bool) (now : DateTime)
  | markUpstreamAccountPendingPurge (accountId : Uuid) (reason : Option String) (now : DateTime)
  | purgePendingUpstreamAccounts (keys : List Uuid) (now : DateTime) (batchSize : Nat)

namespace AccountMaps

variable (cfg : AccountMapsConfig) (w : AccountMaps)

def setUpstreamAccountEnabledInner (accountId : Uuid) (enabled : Bool) (now : DateTime) :
    Result AccountMaps :=
  match w.oauth.account? accountId with
  | none => .error "upstream account not found"
  | some _ =>
    let oauth := w.oauth.updateAccount accountId fun a => { a with enabled := enabled }
    .ok (w.withOauth
      (if enabled then oauth.setAccountPoolStateActiveInner accountId now else oauth))

def setOauthFamilyEnabledInner (accountId : Uuid) (enabled : Bool) (now : DateTime) :
    Result AccountMaps :=
  (w.oauth.setOauthFamilyEnabledInner accountId enabled now).map w.withOauth

/-- The account waits for its deletion, and its time has come. -/
def isPurgeDue (now : DateTime) (accountId : Uuid) : Bool :=
  (w.oauth.healthState accountId).poolState = .pendingPurge &&
    !(w.oauth.healthState accountId).pendingPurgeAt.any (now < ·)

/-- No time comes before all times. -/
def purgeKey (accountId : Uuid) : WithBot Int ×ₗ WithBot Int ×ₗ String :=
  toLex ((w.oauth.healthState accountId).pendingPurgeAt,
    toLex ((w.oauth.healthState accountId).lastPoolTransitionAt, accountId.text))

/-- Of the keys of the map of health states. -/
def pendingPurgeDueAccountIdsInner (keys : List Uuid) (now : DateTime) (limit : Nat) : List Uuid :=
  Paging.page w.purgeKey limit (keys.filter (w.isPurgeDue now))

def purgePendingUpstreamAccountsInner (keys : List Uuid) (now : DateTime) (batchSize : Nat) :
    AccountMaps :=
  (w.pendingPurgeDueAccountIdsInner keys now batchSize).foldl
    (fun w accountId => w.commit (w.deleteUpstreamAccountInner accountId)) w

end AccountMaps

namespace PoolOp

def apply (cfg : AccountMapsConfig) (w : AccountMaps) : PoolOp → AccountMaps
  | .maps op => w.step cfg op
  | .setUpstreamAccountEnabled accountId enabled now =>
    w.commit (w.setUpstreamAccountEnabledInner accountId enabled now)
  | .setOauthFamilyEnabled accountId enabled now =>
    w.commit (w.setOauthFamilyEnabledInner accountId enabled now)
  | .markUpstreamAccountPendingPurge accountId reason now =>
    w.commit (w.markUpstreamAccountPendingPurgeInner cfg accountId reason now)
  | .purgePendingUpstreamAccounts keys now batchSize =>
    w.purgePendingUpstreamAccountsInner keys now batchSize

/-- An account that is added has an id of its own. -/
def DrawsOther (accountId : Uuid) : PoolOp → Prop
  | .maps (.createUpstreamAccount _ newId _) | .maps (.upsertOneTimeSessionAccount _ newId _)
  | .maps (.materializeReady _ newId _) => newId ≠ accountId
  | .maps (.storeTokens _ _ draw) => draw.accountId ≠ accountId
  | _ => True

end PoolOp

/-! ## Changes -/

structure PoolStanding where
  enabled : Bool
  pool : UpstreamAccountHealthStateRecord

inductive StandingChange where
  | move (transition : PoolTransition)
  | release (now : DateTime)
  | switch (enabled : Bool)
  | reinstate (enabled : Bool) (at' : DateTime)
  | delete

namespace StandingChange

def keep : StandingChange := .move .keep

def apply (cfg : OAuthConfig) (standing : PoolStanding) : StandingChange → Option PoolStanding
  | .move transition =>
    some ⟨standing.enabled && !transition.disables, transition.health cfg standing.pool⟩
  | .release now =>
    some { standing with
      pool :=
        if standing.pool.poolState = .quarantine ∧ standing.pool.quarantineUntil.any (· ≤ now) then
          { standing.pool with
            poolState := .active
            quarantineUntil := none
            quarantineReason := none
            lastPoolTransitionAt := some now }
        else standing.pool }
  | .switch enabled => some { standing with enabled := enabled }
  | .reinstate enabled at' =>
    some ⟨enabled, PoolTransition.health cfg (.activate at') standing.pool⟩
  | .delete => none

end StandingChange

/-- What the operator's switch does. -/
def StandingChange.ofSwitch (enabled : Bool) (now : DateTime) : StandingChange :=
  if enabled then .reinstate true now else .switch false

/-- The record can be made into an account: its access token is still good for a while. -/
def OAuthRefreshTokenVaultRecord.isReady (cfg : OAuthConfig) (now : DateTime)
    (record : OAuthRefreshTokenVaultRecord) : Bool :=
  record.fallbackAccessTokenEnc.any fun accessTokenEnc =>
    match OAuthStore.readyTokenExpiresAt cfg record accessTokenEnc with
    | .error _ => false
    | .ok tokenExpiresAt => decide (now + oauthMinValid < tokenExpiresAt)

namespace AccountMaps

variable (cfg : AccountMapsConfig) (w : AccountMaps)

def standing (accountId : Uuid) : Option PoolStanding :=
  (w.oauth.account? accountId).map fun a => ⟨a.enabled, w.oauth.poolRecord accountId⟩

def outcomeTransition (checkedAt : DateTime) (outcome : AccountProbeOutcome) (reasonCode : String)
    (retryAfter : Option DateTime) (now : DateTime) : PoolTransition :=
  match outcome with
  | .ok => .activate checkedAt
  | .fatal => .purge (some reasonCode) now
  | .quota | .transient => .quarantine checkedAt retryAfter (some reasonCode)

def probeTransition (call : RuntimeProbeCall)
    (answer : Except OAuthTokenClientError OAuthUsageSnapshot) (now : DateTime) : PoolTransition :=
  match answer with
  | .ok usage =>
    match deriveRateLimitBlock call.checkedAt usage.rateLimits with
    | (blockedUntil, some reasonCode) =>
      outcomeTransition call.checkedAt .quota reasonCode blockedUntil now
    | (_, none) => outcomeTransition call.checkedAt .ok "" none now
  | .error err =>
    let failure := classifyRuntimeProbeFailure cfg.oauth call.provider call.checkedAt err.code.asStr
      (truncateErrorMessage err.display)
    outcomeTransition call.checkedAt failure.1 failure.2.1 failure.2.2 now

/-- The probe ends before its request because the token cannot be decrypted. -/
def failsToDecrypt (accountId : Uuid) (now : DateTime) : Bool :=
  match (w.oauth.account? accountId).bind fun account =>
      w.buildLiveRateLimitTokenSourceInner account now with
  | some (.encryptedAccessToken accessTokenEnc) =>
    match cfg.oauth.requireCredentialCipher with
    | .error _ => false
    | .ok cipher =>
      match cipher.decrypt accessTokenEnc with
      | .error _ => true
      | .ok _ => false
  | _ => false

def switchesFamily (accountId id : Uuid) : Bool :=
  w.oauth.isOauth accountId && (w.oauth.credentials accountId).any fun target =>
    w.oauth.inFamily target.tokenFamilyId id

/-- How a step changes the standing of the account. -/
def change (id : Uuid) : PoolOp → StandingChange
  | .maps (.upsertOneTimeSessionAccount req _ _) =>
    if Text.trim req.label ≠ "" ∧ ((w.oauth.accounts.find?
        (w.matchesOneTime req (Text.trim req.label))).map (·.id)) = some id then
      .switch (req.enabled.getD true)
    else .keep
  | .maps (.storeTokens call info _) =>
    if w.oauth.matchedAccountId cfg.oauth call info = some id then
      .switch (call.req.enabled.getD true)
    else .keep
  | .maps (.materializeReady record _ now) =>
    if record.isReady cfg.oauth now ∧
        (w.oauth.matchedOauthAccountIdForVaultRecord record).map (·.id) = some id then
      .reinstate record.desiredEnabled now
    else .keep
  | .maps (.dedupeOauthAccountsByIdentity accountUserId userId accountId) =>
    if w.isDuplicate accountUserId userId accountId id then .delete else .keep
  | .maps (.deleteUpstreamAccount accountId) => if accountId = id then .delete else .keep
  | .maps (.purgeExpiredOneTimeAccounts now) => if w.isExpiredOneTime now id then .delete else .keep
  | .maps (.recordUpstreamAccountLiveResult report now) =>
    if report.accountId = id then .move (w.liveTransition cfg report now) else .keep
  | .maps (.startRuntimeProbe accountId now) =>
    if accountId = id ∧ w.failsToDecrypt cfg accountId now then
      .move (.purge (some "credential_decrypt_failed") now)
    else .keep
  | .maps (.finishRuntimeProbe call answer now) =>
    if call.accountId = id then .move (probeTransition cfg call answer now) else .keep
  | .maps (.accountPoolStateRecord accountId now) =>
    if accountId = id then .release now else .keep
  | .maps (.createUpstreamAccount _ _ _) | .maps (.markAccountSeenOk _ _ _)
  | .maps (.recordAccountModelSupport _ _) | .maps (.refreshRateLimitTarget _ _ _ _) => .keep
  | .setUpstreamAccountEnabled accountId enabled now =>
    if accountId = id then .ofSwitch enabled now else .keep
  | .setOauthFamilyEnabled accountId enabled now =>
    if w.switchesFamily accountId id then .ofSwitch enabled now else .keep
  | .markUpstreamAccountPendingPurge accountId reason now =>
    if accountId = id then .move (.purge reason now) else .keep
  | .purgePendingUpstreamAccounts keys now batchSize =>
    if id ∈ w.pendingPurgeDueAccountIdsInner keys now batchSize then .delete else .keep

/-! ## What the steps do to the standing -/

section Standing

variable {cfg w} {w' : AccountMaps} {accountId id : Uuid}

theorem account?_updateAccount (s : OAuthStore) {f : UpstreamAccount → UpstreamAccount}
    (hf : ∀ a, (f a).id = a.id) (accountId id : Uuid) :
    (s.updateAccount accountId f).account? id =
      if accountId = id then (s.account? id).map f else s.account? id := by
  have hkey (a : UpstreamAccount) : (if a.id = accountId then f a else a).id = a.id := by
    split
    · exact hf a
    · rfl
  unfold OAuthStore.updateAccount OAuthStore.account?
  rw [Keyed.lookupBy_map hkey]
  cases haccount : Keyed.lookupBy UpstreamAccount.id s.accounts id with
  | none =>
      rw [Option.map_none, Option.map_none, ite_self]
  | some a =>
      rw [Option.map_some, Option.map_some, Keyed.key_of_lookupBy haccount]
      by_cases hid : accountId = id
      · rw [if_pos hid, if_pos hid.symm]
      · rw [if_neg hid, if_neg (Ne.symm hid)]

theorem standing_eq (w : AccountMaps) (id : Uuid) :
    w.standing id = ((w.oauth.account? id).map (·.enabled)).map fun enabled =>
      (⟨enabled, w.oauth.poolRecord id⟩ : PoolStanding) := by
  rw [standing, Option.map_map]
  rfl

theorem standing_congr
    (haccount : (w'.oauth.account? id).map (·.enabled) = (w.oauth.account? id).map (·.enabled))
    (hpool : w'.oauth.poolRecord id = w.oauth.poolRecord id) : w'.standing id = w.standing id := by
  rw [standing_eq, standing_eq, haccount, hpool]

theorem standing_eq_none_iff : w.standing id = none ↔ id ∉ w.oauth.ids := by
  rw [standing, Option.map_eq_none_iff]
  exact Keyed.lookupBy_eq_none_iff

theorem bind_keep (cfg : OAuthConfig) (standing : Option PoolStanding) :
    (standing.bind fun standing => StandingChange.keep.apply cfg standing) = standing := by
  cases standing with
  | none => rfl
  | some standing =>
      exact congrArg (fun enabled => some (⟨enabled, standing.pool⟩ : PoolStanding))
        (Bool.and_true standing.enabled)

variable {transition : PoolTransition}

theorem Moves.flag (h : Moves cfg accountId transition w w') (id : Uuid) :
    (w'.oauth.account? id).map (·.enabled) =
      ((w.oauth.account? id).map (·.enabled)).map fun enabled =>
        enabled && !(decide (accountId = id) && transition.disables) := by
  unfold OAuthStore.account?
  rw [h.accounts, PoolTransition.accounts]
  cases hdisables : transition.disables with
  | false =>
      rw [if_neg Bool.false_ne_true]
      cases Keyed.lookupBy UpstreamAccount.id w.oauth.accounts id with
      | none => simp
      | some a => simp
  | true =>
      have hupdate := account?_updateAccount w.oauth (f := fun a => { a with enabled := false })
        (fun _ => rfl) accountId id
      rw [if_pos rfl]
      refine (congrArg (Option.map (·.enabled)) hupdate).trans ?_
      unfold OAuthStore.account?
      by_cases hid : accountId = id
      · simp [hid, Function.comp_def]
      · rw [if_neg hid, decide_eq_false hid]
        cases Keyed.lookupBy UpstreamAccount.id w.oauth.accounts id with
        | none => rfl
        | some a => simp

theorem Moves.standing (h : Moves cfg accountId transition w w') (id : Uuid) :
    w'.standing id = (w.standing id).bind fun standing =>
      (if accountId = id then .move transition else .keep : StandingChange).apply cfg.oauth
        standing := by
  by_cases hid : accountId = id
  · rw [if_pos hid, standing_eq, standing_eq, h.flag id, ← hid, h.pool]
    cases w.oauth.account? accountId with
    | none => rfl
    | some a => simp [StandingChange.apply]
  · rw [if_neg hid, bind_keep]
    apply standing_congr
    · rw [h.flag id, decide_eq_false hid]
      cases w.oauth.account? id with
      | none => rfl
      | some a => simp
    · exact h.others id (Ne.symm hid)

theorem Moves.standing_keep (h : Moves cfg accountId .keep w w') (id : Uuid) :
    w'.standing id = w.standing id := by
  rw [h.standing id]
  change ((w.standing id).bind fun standing =>
    (if accountId = id then .keep else .keep : StandingChange).apply cfg.oauth standing) = _
  rw [ite_self, bind_keep]

theorem standing_commit {result : Result AccountMaps}
    (hok : ∀ w', result = .ok w' → Moves cfg accountId transition w w')
    (hmissing : ∀ e, result = .error e → accountId ∉ w.oauth.ids) (id : Uuid) :
    (w.commit result).standing id = (w.standing id).bind fun standing =>
      (if accountId = id then .move transition else .keep : StandingChange).apply cfg.oauth
        standing := by
  cases hresult : result with
  | ok w' => exact (hok w' hresult).standing id
  | error e =>
      rw [commit]
      by_cases hid : accountId = id
      · have hnone := standing_eq_none_iff.2 (hid ▸ hmissing e hresult)
        rw [hnone]
        rfl
      · rw [if_neg hid, bind_keep]

theorem not_mem_of_account?_eq_none (h : w.oauth.account? accountId = none) :
    accountId ∉ w.oauth.ids :=
  Keyed.lookupBy_eq_none_iff.1 h

theorem standing_recordLiveResult (report : LiveResultReport) (now : DateTime) (id : Uuid) :
    (w.commit ((w.recordUpstreamAccountLiveResultInner cfg report now).map (·.2))).standing id =
      (w.standing id).bind fun standing =>
        (if report.accountId = id then .move (w.liveTransition cfg report now) else .keep :
          StandingChange).apply cfg.oauth standing := by
  apply standing_commit
  · intro w' hok
    cases hrecorded : w.recordUpstreamAccountLiveResultInner cfg report now with
    | error e =>
        rw [hrecorded] at hok
        cases hok
    | ok recorded =>
        rw [hrecorded] at hok
        rw [← Except.ok.inj hok]
        exact moves_recordLiveResult hrecorded
  · intro e herror hmem
    rcases recordLiveResult_isOk cfg hmem now with ⟨recorded, hrecorded⟩
    rw [hrecorded] at herror
    cases herror

theorem standing_markPendingPurge (accountId : Uuid) (reason : Option String) (now : DateTime)
    (id : Uuid) :
    (w.commit (w.markUpstreamAccountPendingPurgeInner cfg accountId reason now)).standing id =
      (w.standing id).bind fun standing =>
        (if accountId = id then .move (.purge reason now) else .keep : StandingChange).apply
          cfg.oauth standing := by
  apply standing_commit
  · exact fun w' hok => moves_markPendingPurge hok
  · intro e herror hmem
    rcases markPendingPurge_isOk cfg hmem reason now with ⟨w', hok⟩
    rw [hok] at herror
    cases herror

variable {now : DateTime}

theorem moves_applyProbeOutcome {checkedAt : DateTime} {outcome : AccountProbeOutcome}
    {reasonCode : String} {retryAfter : Option DateTime}
    (h : w.applyProbeOutcome cfg accountId checkedAt outcome reasonCode retryAfter now = .ok w') :
    Moves cfg accountId (outcomeTransition checkedAt outcome reasonCode retryAfter now) w w' := by
  cases outcome with
  | ok =>
      rw [← Except.ok.inj h]
      exact moves_activate cfg w accountId checkedAt
  | fatal => exact moves_markPendingPurge h
  | quota | transient => exact moves_quarantine h

variable (cfg) in
theorem applyProbeOutcome_isOk (checkedAt : DateTime) (outcome : AccountProbeOutcome)
    (reasonCode : String) (retryAfter : Option DateTime) (now : DateTime)
    (h : accountId ∈ w.oauth.ids) :
    ∃ w', w.applyProbeOutcome cfg accountId checkedAt outcome reasonCode retryAfter now =
      .ok w' := by
  cases outcome with
  | ok => exact ⟨_, rfl⟩
  | fatal => exact markPendingPurge_isOk cfg h _ now
  | quota | transient => exact quarantine_isOk h _ _ _

/-- The outcome of a probe after writes that leave the pool alone. -/
theorem standing_concludeProbe (hkeep : Moves cfg accountId .keep w w') (checkedAt : DateTime)
    (outcome : AccountProbeOutcome) (reasonCode : String) (retryAfter : Option DateTime)
    (now : DateTime) (id : Uuid) :
    (w'.concludeProbe cfg accountId checkedAt outcome reasonCode retryAfter now).standing id =
      (w.standing id).bind fun standing =>
        (if accountId = id then
            .move (outcomeTransition checkedAt outcome reasonCode retryAfter now)
          else .keep : StandingChange).apply cfg.oauth standing := by
  have hrecorded := hkeep.then_keep
    (moves_recordAccountProbeResultInner cfg w' accountId checkedAt outcome)
  unfold concludeProbe
  dsimp only
  cases happly :
    (w'.recordAccountProbeResultInner accountId checkedAt outcome).applyProbeOutcome cfg
      accountId checkedAt outcome reasonCode retryAfter now with
  | ok w'' => exact (hrecorded.after_keep (moves_applyProbeOutcome happly)).standing id
  | error e =>
      have hids : (w'.recordAccountProbeResultInner accountId checkedAt outcome).oauth.ids =
          w.oauth.ids :=
        congrArg (List.map UpstreamAccount.id) hrecorded.accounts
      have hmissing : accountId ∉ w.oauth.ids := by
        rw [← hids]
        intro hmem
        rcases applyProbeOutcome_isOk cfg checkedAt outcome reasonCode retryAfter now hmem with
          ⟨w'', hok⟩
        rw [hok] at happly
        cases happly
      dsimp only
      rw [hrecorded.standing id]
      by_cases hid : accountId = id
      · rw [standing_eq_none_iff.2 (hid ▸ hmissing)]
        rfl
      · rw [if_neg hid, if_neg hid]

theorem moves_persistRateLimitCacheSuccessInner (cfg : AccountMapsConfig) (w : AccountMaps)
    (accountId : Uuid) (rateLimits : List OAuthRateLimitSnapshot) (fetchedAt : DateTime)
    (chatgptPlanType : Option String) :
    Moves cfg accountId .keep w
      (w.persistRateLimitCacheSuccessInner cfg accountId rateLimits fetchedAt chatgptPlanType) := by
  unfold persistRateLimitCacheSuccessInner setPlanType
  dsimp only
  split
  · exact moves_of_eq rfl rfl
  · exact moves_of_eq rfl rfl

theorem standing_finishRuntimeProbe (call : RuntimeProbeCall)
    (answer : Except OAuthTokenClientError OAuthUsageSnapshot) (now : DateTime) (id : Uuid) :
    (w.finishRuntimeProbe cfg call answer now).standing id =
      (w.standing id).bind fun standing =>
        (if call.accountId = id then .move (probeTransition cfg call answer now) else .keep :
          StandingChange).apply cfg.oauth standing := by
  unfold finishRuntimeProbe probeTransition
  cases answer with
  | ok usage =>
      have hcached := moves_persistRateLimitCacheSuccessInner cfg w call.accountId usage.rateLimits
        call.checkedAt usage.chatgptPlanType
      dsimp only
      cases deriveRateLimitBlock call.checkedAt usage.rateLimits with
      | mk blockedUntil reason =>
          cases reason with
          | none => exact standing_concludeProbe hcached _ _ _ _ now id
          | some reasonCode => exact standing_concludeProbe hcached _ _ _ _ now id
  | error err =>
      have hcached : Moves cfg call.accountId .keep w
          (w.persistRateLimitCacheFailureInner cfg call.accountId err.code.asStr
            (truncateErrorMessage err.display) now) :=
        moves_of_eq rfl rfl
      exact standing_concludeProbe hcached _ _ _ _ now id

theorem moves_failDecryption {e : String} (h : accountId ∈ w.oauth.ids) :
    Moves cfg accountId (.purge (some "credential_decrypt_failed") now) w
      (w.failDecryption cfg accountId now e now) := by
  have hrecorded := moves_recordAccountProbeResultInner cfg w accountId now .fatal
  have hmem : accountId ∈ (w.recordAccountProbeResultInner accountId now .fatal).oauth.ids := h
  rcases markPendingPurge_isOk cfg hmem (some "credential_decrypt_failed") now with ⟨w', hmark⟩
  unfold failDecryption
  dsimp only
  rw [hmark]
  exact (hrecorded.after_keep (moves_markPendingPurge hmark)).then_keep (moves_of_eq rfl rfl)

variable (cfg w) in
/-- A probe either leaves the maps to its request or gives the account up. -/
theorem startRuntimeProbe_cases (accountId : Uuid) (now : DateTime) :
    (w.startRuntimeProbe cfg accountId now).2 = w ∧ w.failsToDecrypt cfg accountId now = false ∨
      accountId ∈ w.oauth.ids ∧ w.failsToDecrypt cfg accountId now = true ∧
        ∃ e, (w.startRuntimeProbe cfg accountId now).2 =
          w.failDecryption cfg accountId now e now := by
  unfold startRuntimeProbe failsToDecrypt
  cases haccount : w.oauth.account? accountId with
  | none => exact .inl ⟨rfl, rfl⟩
  | some account =>
      rcases mem_ids_of_account? haccount with ⟨hmem, hid⟩
      rw [hid] at hmem
      rw [Option.bind_some]
      dsimp only
      cases w.buildLiveRateLimitTokenSourceInner account now with
      | none => exact .inl ⟨rfl, rfl⟩
      | some source =>
          cases source with
          | bearerToken accessToken => exact .inl ⟨rfl, rfl⟩
          | encryptedAccessToken accessTokenEnc =>
              dsimp only
              cases cfg.oauth.requireCredentialCipher with
              | error e => exact .inl ⟨rfl, rfl⟩
              | ok cipher =>
                  dsimp only
                  cases cipher.decrypt accessTokenEnc with
                  | ok accessToken => exact .inl ⟨rfl, rfl⟩
                  | error e => exact .inr ⟨hmem, rfl, e, rfl⟩

theorem standing_startRuntimeProbe (accountId : Uuid) (now : DateTime) (id : Uuid) :
    (w.startRuntimeProbe cfg accountId now).2.standing id =
      (w.standing id).bind fun standing =>
        (if accountId = id ∧ w.failsToDecrypt cfg accountId now then
            .move (.purge (some "credential_decrypt_failed") now)
          else .keep : StandingChange).apply cfg.oauth standing := by
  rcases startRuntimeProbe_cases cfg w accountId now with
    ⟨hsame, hreads⟩ | ⟨hmem, hfails, e, hfailed⟩
  · rw [hsame, hreads, if_neg (fun h => Bool.false_ne_true h.2), bind_keep]
  · rw [hfailed, hfails, (moves_failDecryption hmem).standing id]
    simp only [and_true]

variable (w) in
theorem standing_accountPoolStateRecordInner (accountId : Uuid) (now : DateTime) (id : Uuid) :
    (w.accountPoolStateRecordInner accountId now).standing id =
      (w.standing id).bind fun standing =>
        (if accountId = id then .release now else .keep : StandingChange).apply cfg.oauth
          standing := by
  have hpool : (w.accountPoolStateRecordInner accountId now).oauth.poolRecord id = _ :=
    congrArg UpstreamAccountHealthStateRecord.pool
      (OAuthStore.healthState_setHealthState w.oauth accountId id _)
  by_cases hid : accountId = id
  · rw [if_pos hid.symm] at hpool
    rw [if_pos hid, standing_eq, standing_eq, hpool, hid]
    change (Option.map (·.enabled) (w.oauth.account? id)).map _ = _
    cases w.oauth.account? id with
    | none => rfl
    | some a =>
        refine congrArg (fun pool => some (⟨a.enabled, pool⟩ : PoolStanding)) ?_
        change _ = if (w.oauth.healthState id).poolState = .quarantine ∧
          (w.oauth.healthState id).quarantineUntil.any (· ≤ now) then _ else _
        split
        · rfl
        · rfl
  · rw [if_neg (Ne.symm hid)] at hpool
    rw [if_neg hid, bind_keep]
    exact standing_congr rfl hpool

variable (cfg w) in
theorem standing_updateAccount {enabled : Bool} {f : UpstreamAccount → UpstreamAccount}
    (hf : ∀ a, (f a).id = a.id ∧ (f a).enabled = enabled) (accountId id : Uuid) :
    (w.withOauth (w.oauth.updateAccount accountId f)).standing id =
      (w.standing id).bind fun standing =>
        (if accountId = id then .switch enabled else .keep : StandingChange).apply cfg.oauth
          standing := by
  have haccount : (w.withOauth (w.oauth.updateAccount accountId f)).oauth.account? id = _ :=
    account?_updateAccount w.oauth (fun a => (hf a).1) accountId id
  by_cases hid : accountId = id
  · rw [if_pos hid] at haccount
    rw [if_pos hid, standing_eq, standing_eq, haccount]
    cases w.oauth.account? id with
    | none => rfl
    | some a =>
        exact congrArg (fun enabled => some (⟨enabled, w.oauth.poolRecord id⟩ : PoolStanding))
          (hf a).2
  · rw [if_neg hid] at haccount
    rw [if_neg hid, bind_keep]
    exact standing_congr (congrArg _ haccount) rfl

theorem Moves.standing_activate {w'' : AccountMaps} {at' : DateTime} {enabled : Bool}
    (h : Moves cfg accountId (.activate at') w' w'') (id : Uuid)
    (hswitched : w'.standing id =
      (w.standing id).bind fun standing =>
        (if accountId = id then .switch enabled else .keep : StandingChange).apply cfg.oauth
          standing) :
    w''.standing id =
      (w.standing id).bind fun standing =>
        (if accountId = id then .reinstate enabled at' else .keep : StandingChange).apply cfg.oauth
          standing := by
  rw [h.standing id, hswitched]
  by_cases hid : accountId = id
  · rw [if_pos hid, if_pos hid, if_pos hid]
    cases w.standing id with
    | none => rfl
    | some standing =>
        exact congrArg (fun enabled => some (⟨enabled, _⟩ : PoolStanding)) (Bool.and_true enabled)
  · rw [if_neg hid, if_neg hid, if_neg hid, bind_keep, bind_keep]

theorem standing_setUpstreamAccountEnabledInner (accountId : Uuid) (enabled : Bool)
    (now : DateTime) (id : Uuid) :
    (w.commit (w.setUpstreamAccountEnabledInner accountId enabled now)).standing id =
      (w.standing id).bind fun standing =>
        (if accountId = id then .ofSwitch enabled now else .keep : StandingChange).apply cfg.oauth
          standing := by
  unfold setUpstreamAccountEnabledInner StandingChange.ofSwitch
  cases haccount : w.oauth.account? accountId with
  | none =>
      by_cases hid : accountId = id
      · have hnone := standing_eq_none_iff.2 (not_mem_of_account?_eq_none haccount)
        rw [hid] at hnone
        change w.standing id = _
        rw [hnone]
        rfl
      · rw [if_neg hid, bind_keep]
        rfl
  | some account =>
      have hupdated := standing_updateAccount cfg w
        (fun a => ⟨rfl, rfl⟩ : ∀ a : UpstreamAccount,
          ({ a with enabled := enabled } : UpstreamAccount).id = a.id ∧ _ = enabled) accountId id
      cases enabled with
      | false => exact hupdated
      | true => exact (moves_activate cfg _ accountId now).standing_activate id hupdated

/-- The members of a family are switched, and are active once they are enabled. -/
theorem standing_family {member : Uuid → Bool} {enabled : Bool} {s : OAuthStore}
    (haccounts : s.accounts =
      w.oauth.accounts.map fun a => if member a.id then { a with enabled := enabled } else a)
    (hhealth : s.healthStates = fun id =>
      if enabled ∧ member id then (w.oauth.setAccountPoolStateActiveInner id now).healthStates id
      else w.oauth.healthStates id) (id : Uuid) :
    (w.withOauth s).standing id =
      (w.standing id).bind fun standing =>
        (if member id then .ofSwitch enabled now else .keep : StandingChange).apply cfg.oauth
          standing := by
  have hkey (a : UpstreamAccount) :
      (if member a.id then { a with enabled := enabled } else a : UpstreamAccount).id = a.id := by
    split
    · rfl
    · rfl
  have haccount : s.account? id = (w.oauth.account? id).map fun a =>
      if member a.id then { a with enabled := enabled } else a := by
    unfold OAuthStore.account?
    rw [haccounts, Keyed.lookupBy_map hkey]
  have hpool : s.poolRecord id = if enabled ∧ member id then
      PoolTransition.health cfg.oauth (.activate now) (w.oauth.poolRecord id)
      else w.oauth.poolRecord id := by
    rw [← (moves_activate cfg w id now).pool]
    unfold OAuthStore.poolRecord OAuthStore.healthState
    rw [hhealth]
    dsimp only
    split
    · rfl
    · rfl
  change (s.account? id).map (fun a => (⟨a.enabled, s.poolRecord id⟩ : PoolStanding)) =
    ((w.oauth.account? id).map fun a => (⟨a.enabled, w.oauth.poolRecord id⟩ : PoolStanding)).bind _
  rw [haccount, hpool]
  cases hfound : w.oauth.account? id with
  | none => rfl
  | some a =>
      have hid : a.id = id := Keyed.key_of_lookupBy hfound
      rw [Option.map_some, Option.map_some, Option.map_some, Option.bind_some, hid]
      cases member id with
      | false => simp [StandingChange.keep, StandingChange.apply, PoolTransition.disables,
          PoolTransition.health]
      | true =>
          cases enabled with
          | false => rfl
          | true => rfl

theorem standing_setOauthFamilyEnabledInner (accountId : Uuid) (enabled : Bool) (now : DateTime)
    (id : Uuid) :
    (w.commit (w.setOauthFamilyEnabledInner accountId enabled now)).standing id =
      (w.standing id).bind fun standing =>
        (if w.switchesFamily accountId id then .ofSwitch enabled now else .keep :
          StandingChange).apply cfg.oauth standing := by
  unfold setOauthFamilyEnabledInner OAuthStore.setOauthFamilyEnabledInner switchesFamily
  cases hoauth : w.oauth.isOauth accountId with
  | false =>
      rw [Bool.false_and, if_neg Bool.false_ne_true, bind_keep]
      rfl
  | true =>
      rw [Bool.true_and]
      cases hcredential : w.oauth.credentials accountId with
      | none =>
          rw [Option.any_none, if_neg Bool.false_ne_true, bind_keep]
          rfl
      | some target =>
          rw [Option.any_some]
          exact standing_family rfl rfl id

/-! ### Upserts -/

theorem standing_insertAccount (account : UpstreamAccount) (hother : account.id ≠ id) :
    (w.withOauth (w.oauth.insertAccount account)).standing id = w.standing id := by
  have haccount : (w.oauth.insertAccount account).account? id = w.oauth.account? id := by
    unfold OAuthStore.insertAccount OAuthStore.account?
    rw [Keyed.lookupBy_upsertBy, Function.update_of_ne (Ne.symm hother)]
  exact standing_congr (congrArg _ haccount) rfl

theorem standing_upsertOneTime (req : UpsertOneTimeSessionAccountRequest) (newId : Uuid)
    (now : DateTime) (hother : newId ≠ id) :
    (w.commit (w.upsertOneTimeSessionAccountInner cfg req newId now)).standing id =
      (w.standing id).bind fun standing =>
        (if Text.trim req.label ≠ "" ∧ ((w.oauth.accounts.find?
            (w.matchesOneTime req (Text.trim req.label))).map (·.id)) = some id then
          .switch (req.enabled.getD true)
        else .keep : StandingChange).apply cfg.oauth standing := by
  unfold upsertOneTimeSessionAccountInner
  by_cases hlabel : Text.trim req.label = ""
  · rw [if_pos hlabel, if_neg (fun h => h.1 hlabel), bind_keep]
    rfl
  · rw [if_neg hlabel]
    dsimp only
    simp only [ne_eq, hlabel, not_false_eq_true, true_and]
    cases hfind : w.oauth.accounts.find? (w.matchesOneTime req (Text.trim req.label)) with
    | none =>
        rw [Option.map_none, if_neg nofun, bind_keep]
        exact standing_insertAccount (oneTimeAccount cfg req newId now) hother
    | some matched =>
        rw [Option.map_some]
        simp only [Option.some.injEq]
        exact standing_updateAccount cfg w (fun old => ⟨rfl, rfl⟩ : ∀ old : UpstreamAccount,
          (oneTimeAccount cfg req old.id old.createdAt).id = old.id ∧ _ = req.enabled.getD true)
          matched.id id

theorem standing_storeTokens (call : OAuthStore.UpsertCall) (info : OAuthTokenInfo)
    (draw : OAuthStore.UpsertDraw) (hother : draw.accountId ≠ id) :
    (w.storeTokens cfg call info draw).standing id =
      (w.standing id).bind fun standing =>
        (if w.oauth.matchedAccountId cfg.oauth call info = some id then
          .switch (call.req.enabled.getD true)
        else .keep : StandingChange).apply cfg.oauth standing := by
  unfold storeTokens OAuthStore.storeTokens
  cases hmatched : w.oauth.matchedAccountId cfg.oauth call info with
  | none =>
      rw [if_neg nofun, bind_keep]
      dsimp only
      unfold OAuthStore.importOauthRefreshTokenWithTokenInfoInner
      split
      · rfl
      · exact standing_insertAccount (OAuthStore.importedAccount call info draw) hother
  | some accountId =>
      simp only [Option.some.injEq]
      cases haccount : w.oauth.account? accountId with
      | none =>
          dsimp only
          by_cases hid : accountId = id
          · have hnone := standing_eq_none_iff.2 (not_mem_of_account?_eq_none haccount)
            rw [hid] at hnone
            change w.standing id = _
            rw [hnone]
            rfl
          · rw [if_neg hid, bind_keep]
            rfl
      | some account =>
          have hid : account.id = accountId := (mem_ids_of_account? haccount).2
          have hupdated := standing_updateAccount cfg w (fun a => ⟨rfl, rfl⟩ :
            ∀ a : UpstreamAccount, (OAuthStore.updatedAccount call info a).id = a.id ∧
              _ = call.req.enabled.getD true) account.id id
          rw [hid] at hupdated
          dsimp only
          unfold OAuthStore.updateMatched
          dsimp only
          rw [hid]
          split
          · exact hupdated
          · exact hupdated

variable {record : OAuthRefreshTokenVaultRecord}

theorem isReady_iff :
    record.isReady cfg.oauth now = true ↔
      ∃ accessTokenEnc tokenExpiresAt, record.fallbackAccessTokenEnc = some accessTokenEnc ∧
        OAuthStore.readyTokenExpiresAt cfg.oauth record accessTokenEnc = .ok tokenExpiresAt ∧
          now + oauthMinValid < tokenExpiresAt := by
  unfold OAuthRefreshTokenVaultRecord.isReady
  cases record.fallbackAccessTokenEnc with
  | none => simp
  | some accessTokenEnc =>
      cases hready : OAuthStore.readyTokenExpiresAt cfg.oauth record accessTokenEnc with
      | error e => simp [hready]
      | ok tokenExpiresAt => simp [hready]

/-- A record that is made into an account is ready, and the account is active. -/
theorem materializeReady_eq_ok {newId : Uuid} {made : UpstreamAccount × AccountMaps}
    (h : w.materializeReadyOauthVaultRecordInner cfg record newId now = .ok made) :
    record.isReady cfg.oauth now = true ∧ ∃ accessTokenEnc tokenExpiresAt,
      Moves cfg (w.oauth.storeReady record accessTokenEnc tokenExpiresAt newId now).1.id
        (.activate now)
        (w.withOauth (w.oauth.storeReady record accessTokenEnc tokenExpiresAt newId now).2)
        made.2 := by
  simp only [materializeReadyOauthVaultRecordInner, Result.bind_eq_ok, pure, Except.pure] at h
  rcases h with ⟨⟨account, oauth⟩, hready, hmade⟩
  unfold OAuthStore.materializeReadyOauthVaultRecordInner at hready
  split at hready
  · cases hready
  · rename_i accessTokenEnc haccess
    simp only [Result.bind_eq_ok] at hready
    rcases hready with ⟨tokenExpiresAt, hexpires, hready⟩
    split at hready
    · cases hready
    · rename_i hlater
      rcases Prod.mk.inj (Except.ok.inj hready) with ⟨haccount, hoauth⟩
      constructor
      · exact isReady_iff.2 ⟨accessTokenEnc, tokenExpiresAt, haccess, hexpires, not_le.1 hlater⟩
      · have hstored := ((moves_recordAccountProbeResultInner cfg _
          (w.oauth.storeReady record accessTokenEnc tokenExpiresAt newId now).1.id
          (record.admissionCheckedAt.getD now) .ok).after_keep (moves_activate cfg _ _ now) :
          Moves cfg _ (.activate now)
            (w.withOauth (w.oauth.storeReady record accessTokenEnc tokenExpiresAt newId now).2) _)
        refine ⟨accessTokenEnc, tokenExpiresAt, ?_⟩
        rw [← Except.ok.inj hmade, ← haccount, ← hoauth]
        dsimp only
        split
        · exact hstored
        · exact hstored.then_keep (moves_persistRateLimitCacheSuccessInner cfg _ _ _ _ _)

variable (w) in
theorem materializeReady_isOk (newId : Uuid) (h : record.isReady cfg.oauth now = true) :
    ∃ made, w.materializeReadyOauthVaultRecordInner cfg record newId now = .ok made := by
  rcases isReady_iff.1 h with ⟨accessTokenEnc, tokenExpiresAt, haccess, hexpires, hlater⟩
  unfold materializeReadyOauthVaultRecordInner OAuthStore.materializeReadyOauthVaultRecordInner
  rw [haccess]
  simp only [hexpires, bind, Except.bind, pure, Except.pure, if_neg (not_le.2 hlater)]
  exact ⟨_, rfl⟩

variable (cfg w) in
theorem standing_storeReady (record : OAuthRefreshTokenVaultRecord) (accessTokenEnc : String)
    (tokenExpiresAt : DateTime) (newId : Uuid) (now : DateTime) (hother : newId ≠ id) :
    (w.withOauth
        (w.oauth.storeReady record accessTokenEnc tokenExpiresAt newId now).2).standing id =
      (w.standing id).bind fun standing =>
        (if (w.oauth.storeReady record accessTokenEnc tokenExpiresAt newId now).1.id = id then
          .switch record.desiredEnabled
        else .keep : StandingChange).apply cfg.oauth standing := by
  unfold OAuthStore.storeReady
  cases w.oauth.matchedOauthAccountIdForVaultRecord record with
  | none =>
      change _ = (w.standing id).bind fun standing => (if newId = id then
        .switch record.desiredEnabled else .keep : StandingChange).apply cfg.oauth standing
      rw [if_neg hother, bind_keep]
      exact standing_insertAccount (OAuthStore.newReadyAccount record newId now) hother
  | some matched =>
      exact standing_updateAccount cfg w (fun a => ⟨rfl, rfl⟩ : ∀ a : UpstreamAccount,
        (OAuthStore.readyAccount record a).id = a.id ∧ _ = record.desiredEnabled) matched.id id

theorem storeReady_id (record : OAuthRefreshTokenVaultRecord) (accessTokenEnc : String)
    (tokenExpiresAt : DateTime) (newId : Uuid) (now : DateTime) (hother : newId ≠ id) :
    (w.oauth.storeReady record accessTokenEnc tokenExpiresAt newId now).1.id = id ↔
      (w.oauth.matchedOauthAccountIdForVaultRecord record).map (·.id) = some id := by
  unfold OAuthStore.storeReady
  cases w.oauth.matchedOauthAccountIdForVaultRecord record with
  | none => exact iff_of_false hother nofun
  | some matched => exact Option.some_inj.symm

theorem standing_materializeReady (record : OAuthRefreshTokenVaultRecord) (newId : Uuid)
    (now : DateTime) (hother : newId ≠ id) :
    (w.commit ((w.materializeReadyOauthVaultRecordInner cfg record newId now).map (·.2))).standing
        id =
      (w.standing id).bind fun standing =>
        (if record.isReady cfg.oauth now ∧
            (w.oauth.matchedOauthAccountIdForVaultRecord record).map (·.id) = some id then
          .reinstate record.desiredEnabled now
        else .keep : StandingChange).apply cfg.oauth standing := by
  cases hmade : w.materializeReadyOauthVaultRecordInner cfg record newId now with
  | error e =>
      have hnot : ¬ record.isReady cfg.oauth now = true := by
        intro hready
        rcases materializeReady_isOk w newId hready with ⟨made, hok⟩
        rw [hok] at hmade
        cases hmade
      rw [if_neg fun h => hnot h.1, bind_keep]
      rfl
  | ok made =>
      rcases materializeReady_eq_ok hmade with ⟨hready, accessTokenEnc, tokenExpiresAt, hmoves⟩
      have hstored :=
        standing_storeReady cfg w record accessTokenEnc tokenExpiresAt newId now hother
      refine (hmoves.standing_activate id hstored).trans ?_
      simp only [storeReady_id record accessTokenEnc tokenExpiresAt newId now hother, hready,
        true_and]

/-! ### Deletions -/

variable (w) in
theorem account?_filter (doomed : Uuid → Bool) (id : Uuid) :
    Keyed.lookupBy UpstreamAccount.id (w.oauth.accounts.filter fun a => !doomed a.id) id =
      if doomed id then none else w.oauth.account? id := by
  unfold OAuthStore.account?
  induction w.oauth.accounts with
  | nil => simp
  | cons a accounts ih =>
      by_cases hid : a.id = id
      · cases hdoomed : doomed id with
        | true =>
            rw [hdoomed] at ih
            simp [hid, hdoomed, ih]
        | false => simp [hid, hdoomed, Keyed.lookupBy_cons]
      · rw [Keyed.lookupBy_cons, if_neg hid, List.filter_cons]
        split
        · rw [Keyed.lookupBy_cons, if_neg hid, ih]
        · exact ih

variable (cfg) in
/-- The accounts that are left keep their standing. -/
theorem standing_delete (doomed : Uuid → Bool) {s : OAuthStore}
    (haccounts : s.accounts = w.oauth.accounts.filter fun a => !doomed a.id)
    (hhealth : ∀ id, doomed id = false → s.healthStates id = w.oauth.healthStates id) (id : Uuid)
    (hw' : w'.oauth = s) :
    w'.standing id = (w.standing id).bind fun standing =>
      (if doomed id then .delete else .keep : StandingChange).apply cfg.oauth standing := by
  have haccount := account?_filter w doomed id
  rw [← haccounts] at haccount
  cases hdoomed : doomed id with
  | true =>
      rw [hdoomed] at haccount
      have hnone : w'.standing id = none := by
        rw [standing_eq_none_iff]
        exact Keyed.lookupBy_eq_none_iff.1 (hw' ▸ haccount)
      rw [hnone]
      cases w.standing id with
      | none => rfl
      | some standing => rfl
  | false =>
      rw [hdoomed] at haccount
      rw [if_neg Bool.false_ne_true, bind_keep]
      apply standing_congr
      · rw [hw']
        exact congrArg _ haccount
      · unfold OAuthStore.poolRecord OAuthStore.healthState
        rw [hw', hhealth id hdoomed]

variable (cfg) in
theorem standing_deleteUpstreamAccount (accountId id : Uuid) :
    (w.commit (w.deleteUpstreamAccountInner accountId)).standing id =
      (w.standing id).bind fun standing =>
        (if accountId = id then .delete else .keep : StandingChange).apply cfg.oauth standing := by
  unfold deleteUpstreamAccountInner
  cases haccount : w.oauth.account? accountId with
  | none =>
      by_cases hid : accountId = id
      · have hnone := standing_eq_none_iff.2 (not_mem_of_account?_eq_none haccount)
        rw [hid] at hnone
        change w.standing id = _
        rw [hnone]
        rfl
      · rw [if_neg hid, bind_keep]
        rfl
  | some account =>
      refine (standing_delete cfg (decide <| · = accountId) rfl ?_ id rfl).trans ?_
      · intro other hother
        exact if_neg (Bool.eq_false_iff.1 hother)
      · simp only [decide_eq_true_eq, eq_comm (a := id) (b := accountId)]

variable (cfg) in
theorem standing_foldl_delete (accountIds : List Uuid) (id : Uuid) :
    (accountIds.foldl (fun w accountId => w.commit (w.deleteUpstreamAccountInner accountId))
        w).standing id =
      (w.standing id).bind fun standing =>
        (if id ∈ accountIds then .delete else .keep : StandingChange).apply cfg.oauth standing := by
  induction accountIds generalizing w with
  | nil => rw [if_neg List.not_mem_nil, bind_keep, List.foldl_nil]
  | cons accountId accountIds ih =>
      rw [List.foldl_cons, ih, standing_deleteUpstreamAccount cfg]
      by_cases hid : accountId = id
      · have hmem : id ∈ accountId :: accountIds := hid ▸ List.mem_cons_self
        rw [if_pos hid, if_pos hmem]
        cases w.standing id with
        | none => rfl
        | some standing => rfl
      · simp only [if_neg hid, bind_keep, List.mem_cons, Ne.symm hid, false_or]

/-! ### Steps -/

variable (cfg w) in
theorem standing_step (op : AccountMapsOp) (hother : (PoolOp.maps op).DrawsOther id) :
    (w.step cfg op).standing id =
      (w.standing id).bind fun standing =>
        (w.change cfg id (.maps op)).apply cfg.oauth standing := by
  cases op with
  | createUpstreamAccount req newId now =>
      rw [change, bind_keep]
      exact standing_insertAccount (createdAccount cfg req newId now) hother
  | upsertOneTimeSessionAccount req newId now => exact standing_upsertOneTime req newId now hother
  | storeTokens call info draw => exact standing_storeTokens call info draw hother
  | materializeReady record newId now => exact standing_materializeReady record newId now hother
  | dedupeOauthAccountsByIdentity accountUserId userId accountId =>
      exact standing_delete cfg (w.isDuplicate accountUserId userId accountId) rfl
        (fun other hkept => if_neg (Bool.eq_false_iff.1 hkept)) id rfl
  | deleteUpstreamAccount accountId => exact standing_deleteUpstreamAccount cfg accountId id
  | purgeExpiredOneTimeAccounts now =>
      exact standing_delete cfg (w.isExpiredOneTime now) (s := (w.step cfg
        (.purgeExpiredOneTimeAccounts now)).oauth) rfl (fun other hkept => rfl) id rfl
  | markAccountSeenOk accountId seenOkAt minWriteInterval =>
      rw [change, bind_keep]
      change (w.markAccountSeenOkInner accountId seenOkAt minWriteInterval).2.standing id = _
      unfold markAccountSeenOkInner
      dsimp only
      split
      · exact (moves_setLiveSignals cfg w accountId _).standing_keep id
      · exact (moves_setLiveSignals cfg w accountId _).standing_keep id
  | recordUpstreamAccountLiveResult report now => exact standing_recordLiveResult report now id
  | recordAccountModelSupport accountId supportedModels =>
      rw [change, bind_keep]
      rfl
  | refreshRateLimitTarget accountId answer fetchedAt now =>
      rw [change, bind_keep]
      change (w.refreshRateLimitTarget cfg accountId answer fetchedAt now).standing id = _
      cases answer with
      | ok usage =>
          exact (moves_persistRateLimitCacheSuccessInner cfg w accountId _ _ _).standing_keep id
      | error e =>
          have hcached : Moves cfg accountId .keep w
              (w.persistRateLimitCacheFailureInner cfg accountId e.1 e.2 now) :=
            moves_of_eq rfl rfl
          exact hcached.standing_keep id
  | startRuntimeProbe accountId now => exact standing_startRuntimeProbe accountId now id
  | finishRuntimeProbe call answer now => exact standing_finishRuntimeProbe call answer now id
  | accountPoolStateRecord accountId now =>
      exact standing_accountPoolStateRecordInner w accountId now id

theorem standing_apply (op : PoolOp) (hother : op.DrawsOther id) :
    (op.apply cfg w).standing id =
      (w.standing id).bind fun standing => (w.change cfg id op).apply cfg.oauth standing := by
  cases op with
  | maps op => exact standing_step cfg w op hother
  | setUpstreamAccountEnabled accountId enabled now =>
      exact standing_setUpstreamAccountEnabledInner accountId enabled now id
  | setOauthFamilyEnabled accountId enabled now =>
      exact standing_setOauthFamilyEnabledInner accountId enabled now id
  | markUpstreamAccountPendingPurge accountId reason now =>
      exact standing_markPendingPurge accountId reason now id
  | purgePendingUpstreamAccounts keys now batchSize => exact standing_foldl_delete cfg _ id

end Standing

end AccountMaps

end CodexPool
