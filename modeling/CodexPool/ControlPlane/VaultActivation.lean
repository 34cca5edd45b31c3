import CodexPool.ControlPlane.ImportFrame
import CodexPool.ControlPlane.OAuthVault
import CodexPool.Lib.Entries

/-!
# Activation of the vault

Accounts that are missing from the pool are taken from the vault: records that are due are probed
once more, a batch of candidates is loaded, and each of them is turned into an account or marked
failed. What becomes of a record does not depend on the other records of its batch, but some of
its errors end the call.
-/

namespace CodexPool

/-- What the activation of one record meets: the answers of its probe and of its refresh, what is
drawn for a new account, and the time at which it comes to its end. -/
structure ActivationInput where
  checkedAt : DateTime
  probeAnswer : ProbeAnswer
  answer : RefreshAnswer
  draw : OAuthStore.UpsertDraw
  finished : DateTime

/-- What a probe finds that nothing comes in between. -/
def probed (cfg : OAuthConfig) (record : OAuthRefreshTokenVaultRecord) (checkedAt : DateTime)
    (answer : ProbeAnswer) : OAuthVaultAdmissionResult :=
  match startProbe cfg record checkedAt with
  | .inl result => result
  | .inr call => probeResult cfg call answer

structure VaultLimits where
  batchSize : Nat
  activePoolTarget : Nat
  runtimePoolCap : Nat

/-- What a whole call meets. -/
structure ActivationCall where
  startedAt : DateTime
  reprobe : Uuid → DateTime × ProbeAnswer
  countedAt : DateTime
  loadedAt : DateTime
  candidate : Uuid → ActivationInput

namespace OAuthStore

variable (cfg : OAuthConfig) (limits : VaultLimits) (s : OAuthStore)

def probeOauthVaultAdmissionInner (recordId : Uuid) (checkedAt : DateTime)
    (answer : ProbeAnswer) : OAuthStore :=
  match s.vaultRecord? recordId with
  | none => s
  | some record =>
    s.updateOauthVaultAdmissionResult recordId (probed cfg record checkedAt answer)

/-- A ready candidate is activated as it is found after its probe. -/
def activateReady (candidateId newId : Uuid) (now finished : DateTime) : Bool × OAuthStore :=
  match s.vaultRecord? candidateId with
  | none => (false, s)
  | some record =>
    if record.status = .ready then
      match s.materializeReadyOauthVaultRecordInner cfg record newId now with
      | .ok (account, s') => (true, s'.finishActivation record (.ok account) finished)
      | .error e => (false, s.finishActivation record (.error e) finished)
    else (false, s)

def activateImported (candidate : OAuthRefreshTokenVaultRecord) (call : UpsertCall)
    (answer : RefreshAnswer) (draw : UpsertDraw) (finished : DateTime) : Bool × OAuthStore :=
  match s.finishUpsert cfg call answer draw with
  | (.ok upserted, s') => (true, s'.finishActivation candidate (.ok upserted.account) finished)
  | (.error e, s') => (false, s'.finishActivation candidate (.error e) finished)

def importCandidate (candidate : OAuthRefreshTokenVaultRecord) (input : ActivationInput) :
    Result Bool × OAuthStore :=
  match activationRequest cfg candidate with
  | .error e => (.error e, s)
  | .ok (.error message) =>
    (.ok false, s.markOauthVaultActivationFailedInner candidate.id candidate.status
      "vault_decrypt_failed" message input.finished)
  | .ok (.ok req) =>
    match startUpsert cfg req with
    | .error e => (.ok false, s.finishActivation candidate (.error e) input.finished)
    | .ok call =>
      let (activated, s) :=
        s.activateImported cfg candidate call input.answer input.draw input.finished
      (.ok activated, s)

/-- The turn of a candidate. An error ends the call. -/
def activateCandidate (candidate : OAuthRefreshTokenVaultRecord) (input : ActivationInput) :
    Result Bool × OAuthStore :=
  match candidate.status with
  | .ready =>
    let (activated, s) := (s.probeOauthVaultAdmissionInner cfg candidate.id input.checkedAt
      input.probeAnswer).activateReady cfg candidate.id input.draw.accountId input.draw.now
        input.finished
    (.ok activated, s)
  | .needsRefresh | .queued => s.importCandidate cfg candidate input
  | .noQuota | .failed => (.ok false, s)

def activateCandidates (input : Uuid → ActivationInput)
    (candidates : List OAuthRefreshTokenVaultRecord) : Result Nat × OAuthStore :=
  Entries.loop (fun s candidate => s.activateCandidate cfg candidate (input candidate.id))
    candidates 0 s

/-! ## A call -/

def oauthActiveAccountCountInner (now : DateTime) : Nat :=
  (s.accounts.filter fun a => a.enabled && s.isOauth a.id &&
    ((s.healthState a.id).poolState = .active || (s.healthState a.id).poolState = .quarantine &&
      (s.healthState a.id).quarantineUntil.any (· ≤ now))).length

/-- The records that are due are probed once more. -/
def reprobed (call : ActivationCall) : OAuthStore :=
  (s.oauthVaultAdmissionReprobeCandidatesInner call.startedAt limits.batchSize).foldl
    (fun s recordId => s.probeOauthVaultAdmissionInner cfg recordId (call.reprobe recordId).1
      (call.reprobe recordId).2) s

/-- How many records are to be activated. -/
def activationLimit (now : DateTime) : Nat :=
  let runtimeCount := s.accounts.length
  let activeCount := s.oauthActiveAccountCountInner now
  if limits.runtimePoolCap ≤ runtimeCount then 0
  else if limits.activePoolTarget ≤ activeCount then 0
  else
    min (min (limits.activePoolTarget - activeCount) limits.batchSize)
      (limits.runtimePoolCap - runtimeCount)

/-- The batch that is loaded once the records that are due have been probed. -/
def activationBatch (call : ActivationCall) : List OAuthRefreshTokenVaultRecord :=
  s.oauthVaultActivationCandidatesInner call.loadedAt (s.activationLimit limits call.countedAt)

def loadedBatch (call : ActivationCall) : List OAuthRefreshTokenVaultRecord :=
  (s.reprobed cfg limits call).activationBatch limits call

/-- The accounts are those that are left once expired ones are purged. -/
def activateOauthRefreshTokenVaultInner (call : ActivationCall) : Result Nat × OAuthStore :=
  (s.reprobed cfg limits call).activateCandidates cfg call.candidate
    (s.loadedBatch cfg limits call)

/-! ## What becomes of a record -/

/-- Why a ready record cannot be turned into an account. -/
def readyError (record : OAuthRefreshTokenVaultRecord) (now : DateTime) : Option String :=
  match record.fallbackAccessTokenEnc with
  | none => some "ready access token is missing"
  | some accessTokenEnc =>
    match readyTokenExpiresAt cfg record accessTokenEnc with
    | .error e => some e
    | .ok tokenExpiresAt =>
      if tokenExpiresAt ≤ now + oauthMinValid then some "ready access token is already expired"
      else none

/-- Why an answered import cannot be stored. -/
def importError (call : UpsertCall) (answer : RefreshAnswer) (draw : UpsertDraw) : Option String :=
  match answer with
  | .error err => some err.display
  | .ok info =>
    match importedCredential cfg call info draw with
    | .error e => some e
    | .ok _ => none

def recordFailed (candidateStatus : OAuthVaultRecordStatus) (e : String) (finished : DateTime)
    (record : OAuthRefreshTokenVaultRecord) : OAuthRefreshTokenVaultRecord :=
  record.activationFailed candidateStatus
    (classifyVaultActivationErrorCode (truncateErrorMessage e)) (truncateErrorMessage e) finished

/-- What becomes of a ready candidate once it has been probed: whether it is activated, and what
is stored under its id then. -/
def readyEffect (now finished : DateTime) (found : OAuthRefreshTokenVaultRecord) :
    Bool × Option OAuthRefreshTokenVaultRecord :=
  if found.status = .ready then
    match readyError cfg found now with
    | none => (true, none)
    | some e => (false, some (recordFailed .ready e finished found))
  else (false, some found)

def importedEffect (candidateStatus : OAuthVaultRecordStatus) (call : UpsertCall)
    (input : ActivationInput) (stored : Option OAuthRefreshTokenVaultRecord) :
    Bool × Option OAuthRefreshTokenVaultRecord :=
  match importError cfg call input.answer input.draw with
  | none => (true, none)
  | some e => (false, stored.map (recordFailed candidateStatus e input.finished))

def importEffect (candidate : OAuthRefreshTokenVaultRecord) (input : ActivationInput)
    (stored : Option OAuthRefreshTokenVaultRecord) :
    Result (Bool × Option OAuthRefreshTokenVaultRecord) :=
  match activationRequest cfg candidate with
  | .error e => .error e
  | .ok (.error message) =>
    .ok (false, stored.map
      (·.activationFailed candidate.status "vault_decrypt_failed" message input.finished))
  | .ok (.ok req) =>
    match startUpsert cfg req with
    | .error e => .ok (false, stored.map (recordFailed candidate.status e input.finished))
    | .ok call => .ok (importedEffect cfg candidate.status call input stored)

/-- What the turn of a candidate does to the record that is stored under its id. -/
def candidateEffect (input : Uuid → ActivationInput) (candidate : OAuthRefreshTokenVaultRecord)
    (stored : Option OAuthRefreshTokenVaultRecord) :
    Result (Bool × Option OAuthRefreshTokenVaultRecord) :=
  let input := input candidate.id
  match candidate.status with
  | .ready =>
    .ok ((stored.map fun record => record.admitted
      (probed cfg record input.checkedAt input.probeAnswer)).elim (false, none)
        (readyEffect cfg input.draw.now input.finished))
  | .needsRefresh | .queued => importEffect cfg candidate input stored
  | .noQuota | .failed => .ok (false, stored)

variable {cfg s}

theorem vaultRecord?_updateVaultRecord (s : OAuthStore) (recordId : Uuid)
    {f : OAuthRefreshTokenVaultRecord → OAuthRefreshTokenVaultRecord} (hf : ∀ r, (f r).id = r.id) :
    (s.updateVaultRecord recordId f).vaultRecord? =
      Function.update s.vaultRecord? recordId ((s.vaultRecord? recordId).map f) := by
  have hkept (r : OAuthRefreshTokenVaultRecord) :
      (if r.id = recordId then f r else r).id = r.id := by
    split_ifs
    · exact hf r
    · rfl
  funext id
  unfold updateVaultRecord vaultRecord?
  dsimp only
  rw [Keyed.lookupBy_map hkept]
  by_cases hid : id = recordId
  · subst hid
    rw [Function.update_self]
    refine Option.map_congr fun r hr => ?_
    rw [if_pos (Keyed.key_of_lookupBy hr)]
  · rw [Function.update_of_ne hid]
    cases hr : Keyed.lookupBy OAuthRefreshTokenVaultRecord.id s.vault id with
    | none => rfl
    | some r =>
        rw [Option.map_some, if_neg ((Keyed.key_of_lookupBy hr).trans_ne hid)]

theorem vaultRecord?_removeVaultRecords (s : OAuthStore) (recordId : Uuid) :
    (s.removeVaultRecords (·.id = recordId)).vaultRecord? =
      Function.update s.vaultRecord? recordId none := by
  have hvault : (s.removeVaultRecords (·.id = recordId)).vault =
      Keyed.deleteBy OAuthRefreshTokenVaultRecord.id recordId s.vault :=
    List.filter_congr fun r _ => by simp
  unfold vaultRecord?
  rw [hvault]
  exact Keyed.lookupBy_deleteBy recordId s.vault

theorem vaultRecord?_finishActivation_ok (candidate : OAuthRefreshTokenVaultRecord)
    (account : UpstreamAccount) (finished : DateTime) :
    (s.finishActivation candidate (.ok account) finished).vaultRecord? =
      Function.update s.vaultRecord? candidate.id none :=
  vaultRecord?_removeVaultRecords _ _

theorem vaultRecord?_markOauthVaultActivationFailedInner (s : OAuthStore) (recordId : Uuid)
    (candidateStatus : OAuthVaultRecordStatus) (errorCode errorMessage : String)
    (now : DateTime) :
    (s.markOauthVaultActivationFailedInner recordId candidateStatus errorCode errorMessage
      now).vaultRecord? = Function.update s.vaultRecord? recordId ((s.vaultRecord? recordId).map
        (·.activationFailed candidateStatus errorCode errorMessage now)) :=
  vaultRecord?_updateVaultRecord s recordId fun r => by
    unfold OAuthRefreshTokenVaultRecord.activationFailed
    split_ifs <;> rfl

theorem vaultRecord?_finishActivation_error (candidate : OAuthRefreshTokenVaultRecord) (e : String)
    (finished : DateTime) :
    (s.finishActivation candidate (.error e) finished).vaultRecord? =
      Function.update s.vaultRecord? candidate.id
        ((s.vaultRecord? candidate.id).map (recordFailed candidate.status e finished)) :=
  vaultRecord?_markOauthVaultActivationFailedInner _ _ _ _ _ _

/-- A ready record is turned into an account unless there is a reason against it. -/
theorem materializeReady_cases (s : OAuthStore) (record : OAuthRefreshTokenVaultRecord)
    (newId : Uuid) (now : DateTime) :
    (∃ e, readyError cfg record now = some e ∧
      s.materializeReadyOauthVaultRecordInner cfg record newId now = .error e) ∨
    ∃ account s', readyError cfg record now = none ∧
      s.materializeReadyOauthVaultRecordInner cfg record newId now = .ok (account, s') ∧
        s'.vault = s.vault := by
  unfold readyError materializeReadyOauthVaultRecordInner
  cases record.fallbackAccessTokenEnc with
  | none => exact .inl ⟨_, rfl, rfl⟩
  | some accessTokenEnc =>
      dsimp only
      cases hexpires : readyTokenExpiresAt cfg record accessTokenEnc with
      | error e => exact .inl ⟨e, rfl, rfl⟩
      | ok tokenExpiresAt =>
          simp only [bind, Except.bind]
          by_cases hexpired : tokenExpiresAt ≤ now + oauthMinValid
          · rw [if_pos hexpired, if_pos hexpired]
            exact .inl ⟨_, rfl, rfl⟩
          · rw [if_neg hexpired, if_neg hexpired]
            refine .inr ⟨_, _, rfl, rfl, ?_⟩
            unfold storeReady
            cases s.matchedOauthAccountIdForVaultRecord record <;> rfl

/-- Why tokens cannot be encrypted does not depend on the account that they are stored for. -/
theorem updatedCredential_error (call : UpsertCall) (info : OAuthTokenInfo) (draw : UpsertDraw)
    (existing : Option OAuthCredentialRecord) :
    (∃ e, importedCredential cfg call info draw = .error e ∧
      updatedCredential cfg call info draw existing = .error e) ∨
    ∃ c c', importedCredential cfg call info draw = .ok c ∧
      updatedCredential cfg call info draw existing = .ok c' := by
  unfold importedCredential updatedCredential
  cases cfg.requireCredentialCipher with
  | error e => exact .inl ⟨e, rfl, rfl⟩
  | ok cipher =>
      simp only [bind, Except.bind]
      cases OAuthCredentialRecord.fromTokenInfo cfg cipher info draw.familyId draw.now with
      | error e => exact .inl ⟨e, rfl, rfl⟩
      | ok credential =>
          dsimp only
          cases hfallback : Text.trimmed? call.req.fallbackAccessToken with
          | none =>
              obtain ⟨c, hc⟩ : ∃ c, credential.setFallbackAccessToken cipher
                  call.req.fallbackAccessToken call.req.fallbackTokenExpiresAt = .ok c := by
                unfold OAuthCredentialRecord.setFallbackAccessToken
                rw [hfallback]
                exact ⟨_, rfl⟩
              exact .inr ⟨c, _, hc, rfl⟩
          | some token =>
              rw [if_pos (by rfl)]
              unfold OAuthCredentialRecord.setFallbackAccessToken
              rw [hfallback]
              simp only [bind, Except.bind]
              cases cipher.encrypt token with
              | error e => exact .inl ⟨e, rfl, rfl⟩
              | ok enc => exact .inr ⟨_, _, rfl, rfl⟩

/-- An answered import is stored unless there is a reason against it. -/
theorem finishUpsert_cases (s : OAuthStore) (call : UpsertCall) (answer : RefreshAnswer)
    (draw : UpsertDraw) :
    (s.finishUpsert cfg call answer draw).2.vault = s.vault ∧
      ((∃ e, importError cfg call answer draw = some e ∧
        (s.finishUpsert cfg call answer draw).1 = .error e) ∨
      ∃ upserted, importError cfg call answer draw = none ∧
        (s.finishUpsert cfg call answer draw).1 = .ok upserted) := by
  unfold importError finishUpsert
  cases answer with
  | error err => exact ⟨rfl, .inl ⟨_, rfl, rfl⟩⟩
  | ok info =>
      dsimp only
      have hstore : (s.storeTokens cfg call info draw).2.vault = s.vault ∧
          ((∃ e, importedCredential cfg call info draw = .error e ∧
            (s.storeTokens cfg call info draw).1 = .error e) ∨
          ∃ c upserted, importedCredential cfg call info draw = .ok c ∧
            (s.storeTokens cfg call info draw).1 = .ok upserted) := by
        unfold storeTokens
        cases hmatched : s.matchedAccountId cfg call info with
        | none =>
            unfold importOauthRefreshTokenWithTokenInfoInner
            cases importedCredential cfg call info draw with
            | error e => exact ⟨rfl, .inl ⟨e, rfl, rfl⟩⟩
            | ok c => exact ⟨rfl, .inr ⟨c, _, rfl, rfl⟩⟩
        | some accountId =>
            obtain ⟨a, ha, rfl, -⟩ := ownOfUpsert_of_matchedAccountId hmatched
            dsimp only
            cases haccount : s.account? a.id with
            | none => exact absurd (List.mem_map_of_mem ha) (Keyed.lookupBy_eq_none_iff.1 haccount)
            | some account =>
                dsimp only [updateMatched]
                obtain ⟨e, he, he'⟩ | ⟨c, c', hc, hc'⟩ := updatedCredential_error call info draw
                  (s.credentials account.id)
                · rw [he, he']
                  exact ⟨rfl, .inl ⟨e, rfl, rfl⟩⟩
                · rw [hc, hc']
                  exact ⟨rfl, .inr ⟨c, _, rfl, rfl⟩⟩
      obtain ⟨hvault, ⟨e, he, hresult⟩ | ⟨c, upserted, hc, hresult⟩⟩ := hstore
      · cases hstored : s.storeTokens cfg call info draw with
        | mk r s' =>
            rw [hstored] at hresult hvault
            obtain rfl : r = .error e := hresult
            rw [he]
            exact ⟨hvault, .inl ⟨e, rfl, rfl⟩⟩
      · cases hstored : s.storeTokens cfg call info draw with
        | mk r s' =>
            rw [hstored] at hresult hvault
            obtain rfl : r = .ok upserted := hresult
            rw [hc]
            exact ⟨hvault, .inr ⟨upserted, rfl, rfl⟩⟩

theorem vaultRecord?_probeOauthVaultAdmissionInner (s : OAuthStore) (recordId : Uuid)
    (checkedAt : DateTime) (answer : ProbeAnswer) :
    (s.probeOauthVaultAdmissionInner cfg recordId checkedAt answer).vaultRecord? =
      Function.update s.vaultRecord? recordId ((s.vaultRecord? recordId).map fun record =>
        record.admitted (probed cfg record checkedAt answer)) := by
  unfold probeOauthVaultAdmissionInner
  cases hrecord : s.vaultRecord? recordId with
  | none => exact (Function.update_eq_self_iff.2 hrecord.symm).symm
  | some record =>
      have hkept (r : OAuthRefreshTokenVaultRecord) :
          (r.admitted (probed cfg record checkedAt answer)).id = r.id := rfl
      refine (vaultRecord?_updateVaultRecord s recordId hkept).trans ?_
      rw [hrecord, Option.map_some, Option.map_some]

variable (cfg) in
theorem activateReady_effect (s : OAuthStore) (candidateId newId : Uuid) (now finished : DateTime) :
    let effect := (s.vaultRecord? candidateId).elim (false, none) (readyEffect cfg now finished)
    (s.activateReady cfg candidateId newId now finished).1 = effect.1 ∧
      (s.activateReady cfg candidateId newId now finished).2.vaultRecord? =
        Function.update s.vaultRecord? candidateId effect.2 := by
  unfold activateReady
  cases hrecord : s.vaultRecord? candidateId with
  | none =>
      exact ⟨rfl, (Function.update_eq_self_iff.2 hrecord.symm).symm⟩
  | some record =>
      rw [Option.elim_some]
      dsimp only
      have hid : record.id = candidateId := Keyed.key_of_lookupBy hrecord
      unfold readyEffect
      by_cases hready : record.status = .ready
      · rw [if_pos hready, if_pos hready]
        obtain ⟨e, he, hresult⟩ | ⟨account, s', hnone, hresult, hvault⟩ :=
          materializeReady_cases s record newId now
        · rw [he, hresult]
          refine ⟨rfl, ?_⟩
          dsimp only
          rw [vaultRecord?_finishActivation_error, hid, hrecord, Option.map_some, hready]
        · rw [hnone, hresult]
          refine ⟨rfl, ?_⟩
          dsimp only
          rw [vaultRecord?_finishActivation_ok, hid]
          unfold vaultRecord?
          rw [hvault]
      · rw [if_neg hready, if_neg hready]
        exact ⟨rfl, (Function.update_eq_self_iff.2 hrecord.symm).symm⟩

variable (cfg) in
theorem activateImported_effect (s : OAuthStore) (candidate : OAuthRefreshTokenVaultRecord)
    (call : UpsertCall) (input : ActivationInput) :
    let effect := importedEffect cfg candidate.status call input (s.vaultRecord? candidate.id)
    let result := s.activateImported cfg candidate call input.answer input.draw input.finished
    result.1 = effect.1 ∧
      result.2.vaultRecord? = Function.update s.vaultRecord? candidate.id effect.2 := by
  obtain ⟨hvault, hcases⟩ := finishUpsert_cases s call input.answer input.draw
  unfold activateImported importedEffect
  cases hfinish : s.finishUpsert cfg call input.answer input.draw with
  | mk r s' =>
      rw [hfinish] at hvault hcases
      have hview : s'.vaultRecord? = s.vaultRecord? := by
        unfold vaultRecord?
        rw [hvault]
      obtain ⟨e, he, hr⟩ | ⟨upserted, hnone, hr⟩ := hcases
      · obtain rfl : r = .error e := hr
        rw [he]
        refine ⟨rfl, ?_⟩
        dsimp only
        rw [vaultRecord?_finishActivation_error, hview]
      · obtain rfl : r = .ok upserted := hr
        rw [hnone]
        refine ⟨rfl, ?_⟩
        dsimp only
        rw [vaultRecord?_finishActivation_ok, hview]

variable (cfg) in
theorem importCandidate_effect (s : OAuthStore) (candidate : OAuthRefreshTokenVaultRecord)
    (input : ActivationInput) :
    match importEffect cfg candidate input (s.vaultRecord? candidate.id) with
    | .error e => (s.importCandidate cfg candidate input).1 = .error e
    | .ok (activated, stored) =>
      (s.importCandidate cfg candidate input).1 = .ok activated ∧
        (s.importCandidate cfg candidate input).2.vaultRecord? =
          Function.update s.vaultRecord? candidate.id stored := by
  unfold importEffect importCandidate
  cases activationRequest cfg candidate with
  | error e => rfl
  | ok request =>
      cases request with
      | error message => exact ⟨rfl, vaultRecord?_markOauthVaultActivationFailedInner _ _ _ _ _ _⟩
      | ok req =>
          dsimp only
          cases startUpsert cfg req with
          | error e => exact ⟨rfl, vaultRecord?_finishActivation_error _ _ _⟩
          | ok call =>
              obtain ⟨hresult, hview⟩ := activateImported_effect cfg s candidate call input
              exact ⟨congrArg _ hresult, hview⟩

/-- The turn of a candidate depends on its own record only. -/
theorem activateCandidate_local (input : Uuid → ActivationInput) :
    Entries.Local vaultRecord? OAuthRefreshTokenVaultRecord.id
      (fun s candidate => s.activateCandidate cfg candidate (input candidate.id))
      (candidateEffect cfg input) where
  ok s candidate activated stored heffect := by
    have himport := importCandidate_effect cfg s candidate (input candidate.id)
    unfold activateCandidate
    cases hstatus : candidate.status with
    | ready =>
        simp only [candidateEffect, hstatus, Except.ok.injEq] at heffect
        obtain ⟨hresult, hview⟩ := activateReady_effect cfg
          (s.probeOauthVaultAdmissionInner cfg candidate.id (input candidate.id).checkedAt
            (input candidate.id).probeAnswer) candidate.id (input candidate.id).draw.accountId
          (input candidate.id).draw.now (input candidate.id).finished
        rw [vaultRecord?_probeOauthVaultAdmissionInner, Function.update_self, heffect]
          at hresult hview
        rw [Function.update_idem] at hview
        exact ⟨congrArg _ hresult, hview⟩
    | needsRefresh =>
        simp only [candidateEffect, hstatus] at heffect
        rw [heffect] at himport
        exact himport
    | queued =>
        simp only [candidateEffect, hstatus] at heffect
        rw [heffect] at himport
        exact himport
    | noQuota =>
        simp only [candidateEffect, hstatus, Except.ok.injEq, Prod.mk.injEq] at heffect
        obtain ⟨rfl, rfl⟩ := heffect
        exact ⟨rfl, (Function.update_eq_self _ _).symm⟩
    | failed =>
        simp only [candidateEffect, hstatus, Except.ok.injEq, Prod.mk.injEq] at heffect
        obtain ⟨rfl, rfl⟩ := heffect
        exact ⟨rfl, (Function.update_eq_self _ _).symm⟩
  error s candidate e heffect := by
    have himport := importCandidate_effect cfg s candidate (input candidate.id)
    unfold activateCandidate
    cases hstatus : candidate.status with
    | needsRefresh =>
        simp only [candidateEffect, hstatus] at heffect
        rw [heffect] at himport
        exact himport
    | queued =>
        simp only [candidateEffect, hstatus] at heffect
        rw [heffect] at himport
        exact himport
    | _ =>
        simp only [candidateEffect, hstatus] at heffect
        cases heffect

/-! ## One bad record -/

/-- What is expected of a call that loads records some of which cannot be activated: it counts
those that have left the vault, each record ends as it would in a batch without another one, and
those that are still there are no candidates any more. -/
structure BatchHandled (cfg : OAuthConfig) (limits : VaultLimits) (s : OAuthStore)
    (call : ActivationCall) : Prop where
  counts : (s.activateOauthRefreshTokenVaultInner cfg limits call).1 =
    .ok ((s.loadedBatch cfg limits call).countP fun c =>
      ((s.activateOauthRefreshTokenVaultInner cfg limits call).2.vaultRecord? c.id).isNone)
  isolated : ∀ bad ∈ s.loadedBatch cfg limits call, ∀ c ∈ s.loadedBatch cfg limits call,
    c.id ≠ bad.id →
      (s.activateOauthRefreshTokenVaultInner cfg limits call).2.vaultRecord? c.id =
        (((s.reprobed cfg limits call).removeVaultRecords (·.id = bad.id)).activateCandidates cfg
          call.candidate
            ((s.loadedBatch cfg limits call).filter (·.id ≠ bad.id))).2.vaultRecord? c.id
  leaves : ∀ c ∈ s.loadedBatch cfg limits call, ∀ r,
    (s.activateOauthRefreshTokenVaultInner cfg limits call).2.vaultRecord? c.id = some r →
      isActivationCandidate (call.candidate c.id).finished r = false

/-- A ready record does not need a refresh after its probe; of another one, the access token can
be decrypted when the refresh token can. -/
def Processable (cfg : OAuthConfig) (input : ActivationInput)
    (c : OAuthRefreshTokenVaultRecord) : Prop :=
  if c.status = .ready then
    (probed cfg c input.checkedAt input.probeAnswer).status ≠ .needsRefresh
  else
    ∃ cipher, cfg.credentialCipher = some cipher ∧ ∀ refreshToken accessTokenEnc,
      cipher.decrypt c.refreshTokenEnc = .ok refreshToken →
        c.fallbackAccessTokenEnc = some accessTokenEnc →
          ∃ accessToken, cipher.decrypt accessTokenEnc = .ok accessToken

variable {c : OAuthRefreshTokenVaultRecord}

theorem exists_activationRequest_iff :
    (∃ request, activationRequest cfg c = .ok request) ↔
      ∃ cipher, cfg.credentialCipher = some cipher ∧ ∀ refreshToken accessTokenEnc,
        cipher.decrypt c.refreshTokenEnc = .ok refreshToken →
          c.fallbackAccessTokenEnc = some accessTokenEnc →
            ∃ accessToken, cipher.decrypt accessTokenEnc = .ok accessToken := by
  unfold activationRequest
  cases hcipher : cfg.credentialCipher with
  | none =>
      simp only [OAuthConfig.requireCredentialCipher, hcipher, bind, Except.bind]
      simp
  | some cipher =>
      rw [OAuthConfig.requireCredentialCipher_eq_ok.2 hcipher]
      simp only [bind, Except.bind, Option.some.injEq, exists_eq_left']
      cases cipher.decrypt c.refreshTokenEnc with
      | error e => simp [pure, Except.pure]
      | ok refreshToken =>
          cases c.fallbackAccessTokenEnc with
          | none => simp [pure, Except.pure]
          | some accessTokenEnc =>
              cases hdecrypt : cipher.decrypt accessTokenEnc with
              | error e => simp [hdecrypt]
              | ok accessToken => simp [hdecrypt, pure, Except.pure]

theorem vaultActivationBackoff_pos (failureCount : Nat) :
    0 < vaultActivationBackoff failureCount := by
  unfold vaultActivationBackoff
  split <;> decide

theorem not_isActivationCandidate_activationFailed (record : OAuthRefreshTokenVaultRecord)
    (candidateStatus : OAuthVaultRecordStatus) (errorCode errorMessage : String)
    (now : DateTime) : isActivationCandidate now
      (record.activationFailed candidateStatus errorCode errorMessage now) = false := by
  unfold OAuthRefreshTokenVaultRecord.activationFailed isActivationCandidate
  split_ifs
  · have hpos := vaultActivationBackoff_pos (nextCount record.failureCount)
    have hlater : ¬ now + vaultActivationBackoff (nextCount record.failureCount) ≤ now := by
      intro hle
      exact absurd hle (not_le.2 (Int.lt_add_of_pos_right now hpos))
    simp [hlater]
  · simp

def LeavesBatch (finished : DateTime) (effect : Bool × Option OAuthRefreshTokenVaultRecord) :
    Prop :=
  effect.1 = effect.2.isNone ∧ ∀ r, effect.2 = some r → isActivationCandidate finished r = false

theorem leavesBatch_failed (finished : DateTime) (record : OAuthRefreshTokenVaultRecord)
    (candidateStatus : OAuthVaultRecordStatus) (errorCode errorMessage : String) :
    LeavesBatch finished (false, (some record).map
      (·.activationFailed candidateStatus errorCode errorMessage finished)) := by
  refine ⟨rfl, fun r hr => ?_⟩
  obtain rfl := Option.some.inj hr
  exact not_isActivationCandidate_activationFailed _ _ _ _ _

theorem leavesBatch_activated (finished : DateTime) : LeavesBatch finished (true, none) :=
  ⟨rfl, fun _ h => by cases h⟩

theorem leavesBatch_importEffect {input : ActivationInput}
    (hready : c.status ≠ .ready) (hprocessable : Processable cfg input c) :
    ∃ effect, importEffect cfg c input (some c) = .ok effect ∧
      LeavesBatch input.finished effect := by
  unfold Processable at hprocessable
  rw [if_neg hready] at hprocessable
  obtain ⟨request, hrequest⟩ := exists_activationRequest_iff.2 hprocessable
  unfold importEffect
  rw [hrequest]
  cases request with
  | error message => exact ⟨_, rfl, leavesBatch_failed _ _ _ _ _⟩
  | ok req =>
      dsimp only
      cases startUpsert cfg req with
      | error e => exact ⟨_, rfl, leavesBatch_failed _ _ _ _ _⟩
      | ok call =>
          refine ⟨_, rfl, ?_⟩
          unfold importedEffect
          cases importError cfg call input.answer input.draw with
          | none => exact leavesBatch_activated _
          | some e => exact leavesBatch_failed _ _ _ _ _

theorem leavesBatch_readyEffect {now finished : DateTime} {found : OAuthRefreshTokenVaultRecord}
    (hfound : found.status ≠ .ready → isActivationCandidate finished found = false) :
    LeavesBatch finished (readyEffect cfg now finished found) := by
  unfold readyEffect
  by_cases hready : found.status = .ready
  · rw [if_pos hready]
    cases readyError cfg found now with
    | none => exact leavesBatch_activated finished
    | some e => exact leavesBatch_failed finished found _ _ _
  · rw [if_neg hready]
    refine ⟨rfl, fun r hr => ?_⟩
    obtain rfl := Option.some.inj hr
    exact hfound hready

variable (cfg) in
/-- No probe queues a record. -/
theorem probed_status_ne_queued (record : OAuthRefreshTokenVaultRecord) (checkedAt : DateTime)
    (answer : ProbeAnswer) : (probed cfg record checkedAt answer).status ≠ .queued := by
  have hresult (call : ProbeCall) : (probeResult cfg call answer).status ≠ .queued := by
    unfold probeResult
    cases answer with
    | ok rateLimits =>
        dsimp only
        split_ifs
        · simp [OAuthVaultAdmissionResult.refreshNeeded]
        · split <;> simp
    | error err =>
        dsimp only [probeRefused]
        split_ifs <;> simp
  unfold probed startProbe
  cases cfg.credentialCipher with
  | none => simp [OAuthVaultAdmissionResult.unusable]
  | some cipher =>
      cases record.fallbackAccessTokenEnc with
      | none => simp [OAuthVaultAdmissionResult.refreshNeeded]
      | some fallbackTokenEnc =>
          dsimp only
          cases cipher.decrypt fallbackTokenEnc with
          | error e => simp [OAuthVaultAdmissionResult.unusable]
          | ok value =>
              dsimp only
              split_ifs
              · exact hresult _
              · simp [OAuthVaultAdmissionResult.unusable]

variable {input : Uuid → ActivationInput} {loadedAt : DateTime}

theorem leavesBatch_candidateEffect (hcandidate : isActivationCandidate loadedAt c = true)
    (hprocessable : Processable cfg (input c.id) c) :
    ∃ effect, candidateEffect cfg input c (some c) = .ok effect ∧
      LeavesBatch (input c.id).finished effect := by
  unfold candidateEffect
  cases hc : c.status with
  | ready =>
      unfold Processable at hprocessable
      rw [if_pos hc] at hprocessable
      refine ⟨_, rfl, leavesBatch_readyEffect fun hready => ?_⟩
      have hqueued := probed_status_ne_queued cfg c (input c.id).checkedAt (input c.id).probeAnswer
      change (probed cfg c (input c.id).checkedAt (input c.id).probeAnswer).status ≠
        .ready at hready
      simp [isActivationCandidate, OAuthRefreshTokenVaultRecord.admitted, hready, hqueued,
        hprocessable]
  | needsRefresh => exact leavesBatch_importEffect (by simp [hc]) hprocessable
  | queued => exact leavesBatch_importEffect (by simp [hc]) hprocessable
  | noQuota => simp [isActivationCandidate, hc] at hcandidate
  | failed => simp [isActivationCandidate, hc] at hcandidate

/-- A candidate that cannot be processed ends the call, or is still a candidate after it. -/
theorem candidateEffect_of_not_processable (hcandidate : isActivationCandidate loadedAt c = true)
    (hclock : loadedAt ≤ (input c.id).finished) (hnot : ¬ Processable cfg (input c.id) c) :
    (∃ e, candidateEffect cfg input c (some c) = .error e) ∨
      ∃ r, candidateEffect cfg input c (some c) = .ok (false, some r) ∧
        isActivationCandidate (input c.id).finished r = true := by
  have himport (hready : c.status ≠ .ready) :
      ∃ e, importEffect cfg c (input c.id) (some c) = .error e := by
    unfold Processable at hnot
    rw [if_neg hready, ← exists_activationRequest_iff] at hnot
    unfold importEffect
    cases hrequest : activationRequest cfg c with
    | error e => exact ⟨e, rfl⟩
    | ok request => exact absurd ⟨request, hrequest⟩ hnot
  unfold candidateEffect
  cases hc : c.status with
  | ready =>
      unfold Processable at hnot
      rw [if_pos hc, not_not] at hnot
      refine .inr
        ⟨c.admitted (probed cfg c (input c.id).checkedAt (input c.id).probeAnswer), ?_, ?_⟩
      · simp [readyEffect, OAuthRefreshTokenVaultRecord.admitted, hnot]
      · unfold isActivationCandidate at hcandidate ⊢
        simp only [OAuthRefreshTokenVaultRecord.admitted, hnot]
        simp only [Bool.and_eq_true, Option.all_eq_true, decide_eq_true_eq] at hcandidate ⊢
        exact ⟨⟨rfl, fun t ht => (hcandidate.1.2 t ht).trans hclock⟩,
          fun t ht => (hcandidate.2 t ht).trans hclock⟩
  | needsRefresh => exact .inl (himport (by simp [hc]))
  | queued => exact .inl (himport (by simp [hc]))
  | noQuota => simp [isActivationCandidate, hc] at hcandidate
  | failed => simp [isActivationCandidate, hc] at hcandidate

/-! ### The batch -/

theorem map_id_updateVaultRecord (s : OAuthStore) (recordId : Uuid)
    {f : OAuthRefreshTokenVaultRecord → OAuthRefreshTokenVaultRecord} (hf : ∀ r, (f r).id = r.id) :
    (s.updateVaultRecord recordId f).vault.map (·.id) = s.vault.map (·.id) := by
  unfold updateVaultRecord
  rw [List.map_map]
  refine List.map_congr_left fun r _ => ?_
  rw [Function.comp_apply]
  split_ifs
  · exact hf r
  · rfl

variable (cfg s) in
/-- Probes leave the ids in the vault as they are. -/
theorem map_id_reprobed (limits : VaultLimits) (call : ActivationCall) :
    (s.reprobed cfg limits call).vault.map (·.id) = s.vault.map (·.id) := by
  have hfold (recordIds : List Uuid) (s : OAuthStore) :
      (recordIds.foldl (fun s recordId => s.probeOauthVaultAdmissionInner cfg recordId
        (call.reprobe recordId).1 (call.reprobe recordId).2) s).vault.map (·.id) =
          s.vault.map (·.id) := by
    induction recordIds generalizing s with
    | nil => rfl
    | cons recordId recordIds ih =>
        rw [List.foldl_cons, ih]
        unfold probeOauthVaultAdmissionInner
        cases s.vaultRecord? recordId with
        | none => rfl
        | some record => exact map_id_updateVaultRecord s recordId fun _ => rfl
  exact hfold _ s

theorem mem_activationBatch {limits : VaultLimits} {call : ActivationCall}
    (hc : c ∈ s.activationBatch limits call) :
    c ∈ s.vault ∧ isActivationCandidate call.loadedAt c = true := by
  have hmem := List.mem_mergeSort.1 (List.mem_of_mem_take hc)
  exact List.mem_filter.1 hmem

theorem nodup_activationBatch (hkeyed : (s.vault.map (·.id)).Nodup) (limits : VaultLimits)
    (call : ActivationCall) : ((s.activationBatch limits call).map (·.id)).Nodup := by
  have hfilter : ((s.vault.filter (isActivationCandidate call.loadedAt)).map (·.id)).Nodup :=
    hkeyed.sublist (List.filter_sublist.map _)
  have hsorted := ((List.mergeSort_perm (s.vault.filter (isActivationCandidate call.loadedAt))
    (comesFirst fun r => oauthVaultActivationPriority r.status)).map (·.id)).nodup_iff.2 hfilter
  exact hsorted.sublist ((List.take_sublist _ _).map _)

theorem vaultRecord?_of_mem (hkeyed : (s.vault.map (·.id)).Nodup)
    (hc : c ∈ s.vault) : s.vaultRecord? c.id = some c :=
  Keyed.lookupBy_of_mem hkeyed hc

/-- The records of a batch that can be processed, each with what becomes of it. -/
theorem activateCandidates_of_processable {batch : List OAuthRefreshTokenVaultRecord}
    (hnd : (batch.map (·.id)).Nodup)
    (hbatch : ∀ c ∈ batch, s.vaultRecord? c.id = some c ∧ isActivationCandidate loadedAt c = true)
    (hprocessable : ∀ c ∈ batch, Processable cfg (input c.id) c) :
    (s.activateCandidates cfg input batch).1 = .ok (batch.countP fun c =>
      ((s.activateCandidates cfg input batch).2.vaultRecord? c.id).isNone) ∧
    ∀ c ∈ batch, ∃ effect, candidateEffect cfg input c (some c) = .ok effect ∧
      (s.activateCandidates cfg input batch).2.vaultRecord? c.id = effect.2 ∧
        LeavesBatch (input c.id).finished effect := by
  have heffects (c) (hc : c ∈ batch) :=
    leavesBatch_candidateEffect (hbatch c hc).2 (hprocessable c hc)
  have hok (c) (hc : c ∈ batch) :
      ∃ r, candidateEffect cfg input c (s.vaultRecord? c.id) = .ok r := by
    obtain ⟨effect, heffect, -⟩ := heffects c hc
    rw [(hbatch c hc).1]
    exact ⟨effect, heffect⟩
  obtain ⟨hcount, hentries, -⟩ := Entries.loop_of_ok (activateCandidate_local input) hnd hok 0
  have hresults (c) (hc : c ∈ batch) : ∃ effect, candidateEffect cfg input c (some c) = .ok effect ∧
      (s.activateCandidates cfg input batch).2.vaultRecord? c.id = effect.2 ∧
        LeavesBatch (input c.id).finished effect := by
    obtain ⟨effect, heffect, hleaves⟩ := heffects c hc
    refine ⟨effect, heffect, ?_, hleaves⟩
    refine hentries c hc effect.1 effect.2 ?_
    rw [(hbatch c hc).1]
    exact heffect
  refine ⟨?_, hresults⟩
  rw [Nat.zero_add] at hcount
  refine hcount.trans (congrArg Except.ok (List.countP_congr fun c hc => ?_))
  obtain ⟨effect, heffect, hentry, hleaves⟩ := hresults c hc
  unfold Entries.counted
  rw [(hbatch c hc).1, heffect, hentry, ← hleaves.1]

/-- A call handles its batch just when each record that it loads can be processed. -/
theorem batchHandled_iff (limits : VaultLimits) (hkeyed : (s.vault.map (·.id)).Nodup)
    (call : ActivationCall) (hclock : ∀ id, call.loadedAt ≤ (call.candidate id).finished) :
    BatchHandled cfg limits s call ↔
      ∀ c ∈ s.loadedBatch cfg limits call, Processable cfg (call.candidate c.id) c := by
  have hkeyed' : ((s.reprobed cfg limits call).vault.map (·.id)).Nodup := by
    rw [map_id_reprobed]
    exact hkeyed
  have hnd := nodup_activationBatch hkeyed' limits call
  have hbatch (c) (hc : c ∈ s.loadedBatch cfg limits call) :
      (s.reprobed cfg limits call).vaultRecord? c.id = some c ∧
        isActivationCandidate call.loadedAt c = true :=
    ⟨vaultRecord?_of_mem hkeyed' (mem_activationBatch hc).1, (mem_activationBatch hc).2⟩
  constructor
  · intro h c hc
    by_contra hnot
    -- the call has returned, so that no record has ended it
    have hok (b) (hb : b ∈ s.loadedBatch cfg limits call) : ∃ r, candidateEffect cfg call.candidate
        b ((s.reprobed cfg limits call).vaultRecord? b.id) = .ok r := by
      cases heffect : candidateEffect cfg call.candidate b
          ((s.reprobed cfg limits call).vaultRecord? b.id) with
      | ok r => exact ⟨r, rfl⟩
      | error e =>
          obtain ⟨e', herror⟩ := Entries.loop_of_error (activateCandidate_local call.candidate) hnd
            hb heffect 0
          have hreturned := h.counts.symm.trans herror
          cases hreturned
    have hentries :=
      (Entries.loop_of_ok (activateCandidate_local call.candidate) hnd hok 0).2.1 c hc
    obtain ⟨e, heffect⟩ | ⟨r, heffect, hcandidate⟩ :=
      candidateEffect_of_not_processable (hbatch c hc).2 (hclock c.id) hnot
    · obtain ⟨r, hr⟩ := hok c hc
      rw [(hbatch c hc).1, heffect] at hr
      cases hr
    · rw [(hbatch c hc).1] at hentries
      have hleaves := h.leaves c hc r (hentries false (some r) heffect)
      exact Bool.false_ne_true (hleaves.symm.trans hcandidate)
  · intro hprocessable
    obtain ⟨hcount, hresults⟩ := activateCandidates_of_processable hnd hbatch hprocessable
    refine ⟨hcount, fun bad hbad c hc hne => ?_, fun c hc r hr => ?_⟩
    · have hmem {b : OAuthRefreshTokenVaultRecord}
          (hb : b ∈ (s.loadedBatch cfg limits call).filter (·.id ≠ bad.id)) :
          b ∈ s.loadedBatch cfg limits call ∧ b.id ≠ bad.id := by
        simpa using hb
      have hnd' : (((s.loadedBatch cfg limits call).filter (·.id ≠ bad.id)).map (·.id)).Nodup :=
        hnd.sublist (List.filter_sublist.map _)
      have hbatch' (b) (hb : b ∈ (s.loadedBatch cfg limits call).filter (·.id ≠ bad.id)) :
          ((s.reprobed cfg limits call).removeVaultRecords (·.id = bad.id)).vaultRecord? b.id =
            some b ∧ isActivationCandidate call.loadedAt b = true := by
        rw [vaultRecord?_removeVaultRecords, Function.update_of_ne (hmem hb).2]
        exact hbatch b (hmem hb).1
      obtain ⟨-, hresults'⟩ := activateCandidates_of_processable hnd' hbatch' fun b hb =>
        hprocessable b (hmem hb).1
      obtain ⟨effect, heffect, hentry, -⟩ := hresults c hc
      obtain ⟨effect', heffect', hentry', -⟩ := hresults' c (by simpa using ⟨hc, hne⟩)
      obtain rfl := Except.ok.inj (heffect.symm.trans heffect')
      exact hentry.trans hentry'.symm
    · obtain ⟨effect, -, hentry, hleaves⟩ := hresults c hc
      exact hleaves.2 r (hentry.symm.trans hr)

/-! ### A record that stops the others -/

/-- A record that waits for a refresh. -/
def queuedAs (id : String) (fallbackAccessTokenEnc : Option String) (createdAt : DateTime) :
    OAuthRefreshTokenVaultRecord where
  id := ⟨id⟩
  label := id
  email := none
  baseUrl := "https://chatgpt.com/backend-api/codex"
  refreshTokenEnc := "token-" ++ id
  fallbackAccessTokenEnc := fallbackAccessTokenEnc
  fallbackTokenExpiresAt := none
  refreshTokenSha256 := "sha-token-" ++ id
  chatgptAccountId := none
  chatgptPlanType := none
  sourceType := none
  desiredMode := .codexOauth
  desiredEnabled := true
  desiredPriority := 100
  status := .queued
  failureCount := 0
  backoffUntil := none
  nextAttemptAt := some createdAt
  lastErrorCode := none
  lastErrorMessage := none
  admissionSource := none
  admissionCheckedAt := none
  admissionRetryAfter := none
  admissionErrorCode := none
  admissionErrorMessage := none
  admissionRateLimits := []
  admissionRateLimitsExpiresAt := none
  failureStage := none
  attemptCount := 0
  transientRetryCount := 0
  nextRetryAt := some createdAt
  retryable := true
  terminalReason := none
  createdAt := createdAt
  updatedAt := createdAt

/-- A cipher that cannot decrypt what another key has encrypted. -/
def rotatedCipher : CredentialCipher where
  encrypt := .ok
  decrypt := fun text =>
    if text = "garbled" then .error "failed to decrypt credential" else .ok text

def rotatedConfig : OAuthConfig :=
  { plainConfig with credentialCipher := some rotatedCipher }

def vaultOf (vault : List OAuthRefreshTokenVaultRecord) : OAuthStore where
  accounts := []
  providers := fun _ => none
  credentials := fun _ => none
  sessionProfiles := fun _ => none
  healthStates := fun _ => none
  vault := vault

def roomyLimits : VaultLimits := ⟨10, 10, 10⟩

def answeredCall : ActivationCall where
  startedAt := 1
  reprobe := fun _ => (1, .ok [])
  countedAt := 1
  loadedAt := 1
  candidate := fun id => {
    checkedAt := 1
    probeAnswer := .ok []
    answer := .ok (anonymousTokens ("token-" ++ id.text ++ "2") (seconds 3600))
    draw := ⟨id, "family", 1⟩
    finished := 1 }

/-- A vault of which no record is due for another probe is left as it is. -/
theorem reprobed_vaultOf (cfg : OAuthConfig) (limits : VaultLimits)
    {vault : List OAuthRefreshTokenVaultRecord}
    (hnone : vault.filter (isReprobeCandidate answeredCall.startedAt) = []) :
    (vaultOf vault).reprobed cfg limits answeredCall = vaultOf vault := by
  have hreprobe : (vaultOf vault).oauthVaultAdmissionReprobeCandidatesInner answeredCall.startedAt
      limits.batchSize = [] := by
    unfold oauthVaultAdmissionReprobeCandidatesInner
    rw [show (vaultOf vault).vault = vault from rfl, hnone]
    simp
  unfold reprobed
  rw [hreprobe]
  rfl

/-- A vault with few records, all of them candidates and in order, is loaded as it is. -/
theorem loadedBatch_vaultOf {vault : List OAuthRefreshTokenVaultRecord}
    (hnone : vault.filter (isReprobeCandidate answeredCall.startedAt) = [])
    (hall : vault.filter (isActivationCandidate answeredCall.loadedAt) = vault)
    (hsorted : vault.Pairwise fun a b =>
      comesFirst (fun r => oauthVaultActivationPriority r.status) a b = true)
    (hfew : vault.length ≤ 10) :
    (vaultOf vault).loadedBatch rotatedConfig roomyLimits answeredCall = vault := by
  have hlimit : (vaultOf vault).activationLimit roomyLimits answeredCall.countedAt = 10 := rfl
  unfold loadedBatch activationBatch oauthVaultActivationCandidatesInner
  rw [reprobed_vaultOf _ _ hnone, show (vaultOf vault).vault = vault from rfl, hall, hlimit,
    List.mergeSort_of_pairwise hsorted]
  exact List.take_of_length_le hfew

/-- Two records, the first of which has a refresh token that cannot be decrypted. -/
def unreadableVault : List OAuthRefreshTokenVaultRecord :=
  [{ queuedAs "a" none 0 with refreshTokenEnc := "garbled" }, queuedAs "b" none 1]

theorem unreadableVault_handled :
    BatchHandled rotatedConfig roomyLimits (vaultOf unreadableVault) answeredCall := by
  have hkeyed : ((vaultOf unreadableVault).vault.map (·.id)).Nodup := by decide
  refine (batchHandled_iff roomyLimits hkeyed answeredCall fun _ => le_refl _).2 fun c hc => ?_
  rw [loadedBatch_vaultOf (by decide +kernel) (by decide +kernel) (by decide +kernel)
    (by decide)] at hc
  obtain rfl | hc := List.mem_cons.1 hc
  · exact ⟨rotatedCipher, rfl, fun _ _ _ hnone => nomatch hnone⟩
  · obtain rfl := List.mem_singleton.1 hc
    exact ⟨rotatedCipher, rfl, fun _ _ _ hnone => nomatch hnone⟩

/-- Two records, the first of which has an access token that cannot be decrypted. -/
def garbledVault : List OAuthRefreshTokenVaultRecord :=
  [queuedAs "a" (some "garbled") 0, queuedAs "b" none 1]

theorem loadedBatch_garbledVault :
    (vaultOf garbledVault).loadedBatch rotatedConfig roomyLimits answeredCall = garbledVault :=
  loadedBatch_vaultOf (by decide +kernel) (by decide +kernel) (by decide +kernel) (by decide)

/-- A record whose access token cannot be decrypted ends the call before the next one is taken. -/
theorem garbledVault_not_handled :
    ¬ BatchHandled rotatedConfig roomyLimits (vaultOf garbledVault) answeredCall := by
  intro h
  have herror : ((vaultOf garbledVault).activateOauthRefreshTokenVaultInner rotatedConfig
      roomyLimits answeredCall).1.toOption = none := by
    unfold activateOauthRefreshTokenVaultInner
    rw [loadedBatch_garbledVault]
    decide +kernel
  rw [h.counts] at herror
  cases herror

end OAuthStore

end CodexPool
