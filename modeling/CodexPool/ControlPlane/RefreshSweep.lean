import CodexPool.ControlPlane.OAuthWorld
import CodexPool.ControlPlane.PgRefresh
import CodexPool.Lib.Sweep

/-!
# The refresh sweep

The sweep takes a batch of accounts whose tokens expire, refreshes each of them and goes on while
its batches are full. The errors of a refresh are dropped, and a refresh that does nothing leaves
its account to be taken again. The accounts are those that are left once expired ones are purged.
-/

namespace CodexPool

/-- What one refresh of a pass meets: the time, the answer, and what is drawn when it comes. -/
structure RefreshInput where
  started : DateTime
  answer : RefreshAnswer
  familyId : String
  finished : DateTime

/-- What one pass meets: the time, the times at which the states of the accounts in the pool are
read, and the refreshes. Refreshes of different accounts touch different credentials, so that they
can be taken one after the other. -/
structure PassInput where
  now : DateTime
  poolRead : Uuid → DateTime
  refresh : Uuid → RefreshInput

namespace OAuthStore

variable (cfg : OAuthConfig) (s : OAuthStore)

/-- A refresh from its start to its end. -/
def refreshOauthAccountInner (accountId : Uuid) (force : Bool) (input : RefreshInput) :
    OAuthStore :=
  match s.startRefresh cfg accountId force input.started with
  | .ok (some call) =>
    match s.finishRefresh cfg call input.answer input.familyId input.finished with
    | .ok s' => s'
    | .error _ => s
  | _ => s

def isExpiring (input : PassInput) (account : UpstreamAccount) : Bool :=
  account.enabled &&
    ((s.accountPoolStateRecordInner account.id (input.poolRead account.id)).healthState
      account.id).poolState = .active &&
    s.isOauth account.id &&
    (s.credentials account.id).any fun credential =>
      !credential.inBackoff input.now &&
        decide (credential.tokenExpiresAt ≤ input.now + oauthRefreshWindow)

/-- The selection of a pass: it goes through the accounts until the batch is full. The states of
the enabled accounts that it comes to are read. -/
def scanExpiring (input : PassInput) :
    Nat → List UpstreamAccount → OAuthStore → List Uuid × OAuthStore
  | 0, _, s => ([], s)
  | _, [], s => ([], s)
  | room + 1, account :: accounts, s =>
    if !account.enabled then scanExpiring input (room + 1) accounts s
    else
      let read := s.accountPoolStateRecordInner account.id (input.poolRead account.id)
      if s.isExpiring input account then
        let rest := scanExpiring input room accounts read
        (account.id :: rest.1, rest.2)
      else scanExpiring input (room + 1) accounts read

def expiringAccounts (batchSize : Nat) (input : PassInput) : List Uuid :=
  (scanExpiring input batchSize s.accounts s).1

def afterScan (batchSize : Nat) (input : PassInput) : OAuthStore :=
  (scanExpiring input batchSize s.accounts s).2

def refreshAll (input : PassInput) (accountIds : List Uuid) : OAuthStore :=
  accountIds.foldl (fun s accountId =>
    s.refreshOauthAccountInner cfg accountId false (input.refresh accountId)) s

def refreshPass (batchSize : Nat) (input : PassInput) : OAuthStore :=
  (s.afterScan batchSize input).refreshAll cfg input (s.expiringAccounts batchSize input)

/-- The store after some passes of a sweep. -/
def afterPasses (batchSize : Nat) (inputs : Nat → PassInput) : Nat → OAuthStore
  | 0 => s
  | n + 1 => (afterPasses batchSize inputs n).refreshPass cfg batchSize (inputs n)

/-- The accounts that a pass takes. -/
def sweepBatch (batchSize : Nat) (inputs : Nat → PassInput) (n : Nat) : List Uuid :=
  (s.afterPasses cfg batchSize inputs n).expiringAccounts batchSize (inputs n)

/-! ## What refreshes leave -/

def EnablesNone (s s' : OAuthStore) : Prop :=
  ∀ a' ∈ s'.accounts, ∃ a ∈ s.accounts, a.id = a'.id ∧ (a'.enabled = true → a.enabled = true)

/-- What a refresh leaves of all accounts: their ids, their providers, and that they are not
enabled. -/
structure Steady (s s' : OAuthStore) : Prop where
  ids : s'.ids = s.ids
  providers : s'.providers = s.providers
  enablesNone : EnablesNone s s'

variable {cfg s} {s' : OAuthStore}

theorem Steady.refl (s : OAuthStore) : Steady s s :=
  ⟨rfl, rfl, fun a ha => ⟨a, ha, rfl, id⟩⟩

theorem Steady.trans {s'' : OAuthStore} (h : Steady s s') (h' : Steady s' s'') : Steady s s'' := by
  refine ⟨h'.ids.trans h.ids, h'.providers.trans h.providers, fun a'' ha'' => ?_⟩
  obtain ⟨a', ha', hid', henabled'⟩ := h'.enablesNone a'' ha''
  obtain ⟨a, ha, hid, henabled⟩ := h.enablesNone a' ha'
  exact ⟨a, ha, hid.trans hid', fun h => henabled (henabled' h)⟩

theorem steady_of_updateAccount {f : UpstreamAccount → UpstreamAccount}
    (hid : ∀ a, (f a).id = a.id) (henabled : ∀ a, (f a).enabled = true → a.enabled = true)
    {accountId : Uuid} (haccounts : s'.accounts = (s.updateAccount accountId f).accounts)
    (hproviders : s'.providers = s.providers) : Steady s s' := by
  refine ⟨?_, hproviders, fun a' ha' => ?_⟩
  · have hids := s.ids_updateAccount f hid accountId
    unfold ids at hids ⊢
    rw [haccounts, hids]
  · rw [haccounts] at ha'
    obtain ⟨a, ha, rfl⟩ := List.mem_map.1 ha'
    refine ⟨a, ha, ?_, fun h => ?_⟩
    · split_ifs
      · exact (hid a).symm
      · rfl
    · split_ifs at h
      · exact henabled a h
      · exact h

theorem steady_markUpstreamAccountPendingPurgeInner (accountId : Uuid) (reason : Option String)
    (now : DateTime) :
    Steady s (s.markUpstreamAccountPendingPurgeInner cfg accountId reason now) := by
  unfold markUpstreamAccountPendingPurgeInner
  cases s.account? accountId with
  | none => exact .refl s
  | some a =>
      exact steady_of_updateAccount (f := fun a => { a with enabled := false }) (fun _ => rfl)
        (fun _ h => by cases h) rfl rfl

theorem steady_foldl (accountIds : List Uuid) (reason : Option String) (now : DateTime) :
    Steady s (accountIds.foldl (fun s accountId =>
      s.markUpstreamAccountPendingPurgeInner cfg accountId reason now) s) := by
  induction accountIds generalizing s with
  | nil => exact .refl s
  | cons accountId accountIds ih =>
      exact (steady_markUpstreamAccountPendingPurgeInner accountId reason now).trans ih

/-- The account is out of the pool. -/
def Disabled (s : OAuthStore) (accountId : Uuid) : Prop :=
  ∀ a ∈ s.accounts, a.id = accountId → a.enabled = false

variable {accountId : Uuid}

theorem Disabled.steady (h : s.Disabled accountId) (hsteady : Steady s s') :
    s'.Disabled accountId := by
  intro a' ha' hid
  obtain ⟨a, ha, hida, henabled⟩ := hsteady.enablesNone a' ha'
  have hdisabled := h a ha (hida.trans hid)
  by_contra hne
  rw [henabled (by simpa using hne)] at hdisabled
  cases hdisabled

theorem disabled_markUpstreamAccountPendingPurgeInner (accountId : Uuid) (reason : Option String)
    (now : DateTime) :
    (s.markUpstreamAccountPendingPurgeInner cfg accountId reason now).Disabled accountId := by
  unfold markUpstreamAccountPendingPurgeInner
  cases haccount : s.account? accountId with
  | none =>
      intro a ha hid
      have hnot := Keyed.lookupBy_eq_none_iff.1 haccount
      exact absurd (hid ▸ List.mem_map_of_mem ha) hnot
  | some b =>
      intro a ha hid
      obtain ⟨c, -, rfl⟩ := List.mem_map.1 ha
      by_cases hc : c.id = accountId
      · rw [if_pos hc]
      · rw [if_neg hc] at hid
        exact absurd hid hc

theorem disabled_foldl {accountIds : List Uuid} (hmem : accountId ∈ accountIds)
    (reason : Option String) (now : DateTime) :
    (accountIds.foldl (fun s accountId =>
      s.markUpstreamAccountPendingPurgeInner cfg accountId reason now) s).Disabled accountId := by
  induction accountIds generalizing s with
  | nil => cases hmem
  | cons first accountIds ih =>
      obtain rfl | hmem := List.mem_cons.1 hmem
      · exact (disabled_markUpstreamAccountPendingPurgeInner accountId reason now).steady
          (steady_foldl accountIds reason now)
      · exact ih hmem

variable {call : RefreshCall}

theorem steady_finishRefresh {answer : RefreshAnswer} {familyId : String}
    {now : DateTime} (h : s.finishRefresh cfg call answer familyId now = .ok s') : Steady s s' := by
  unfold finishRefresh at h
  cases answer with
  | ok info =>
      simp only [Result.bind_eq_ok] at h
      obtain ⟨cipher, -, base, -, h⟩ := h
      obtain rfl := Except.ok.inj h
      split_ifs
      · exact steady_of_updateAccount
          (f := fun a => { a with chatgptAccountId := info.chatgptAccountId }) (fun _ => rfl)
          (fun _ h => h) rfl rfl
      · exact ⟨rfl, rfl, fun a ha => ⟨a, ha, rfl, fun h => h⟩⟩
  | error err =>
      obtain rfl := Except.ok.inj h
      have hstored : Steady s
          (s.upsertOauthCredential call.accountId (call.credential.failed err call.now)) :=
        ⟨rfl, rfl, fun a ha => ⟨a, ha, rfl, id⟩⟩
      split_ifs
      · exact hstored.trans (steady_foldl _ _ _)
      · exact hstored.trans (steady_markUpstreamAccountPendingPurgeInner _ _ _)
      · exact hstored

theorem credentials_finishRefresh_of_ne {answer : RefreshAnswer}
    {familyId : String} {now : DateTime}
    (h : s.finishRefresh cfg call answer familyId now = .ok s') {id : Uuid}
    (hne : id ≠ call.accountId) : s'.credentials id = s.credentials id := by
  cases answer with
  | ok info =>
      obtain ⟨credential, -, -, -, -, hkeeps⟩ := finishRefresh_of_ok h
      rw [hkeeps.credentials, Function.update_of_ne hne]
  | error err =>
      obtain ⟨s'', hs'', hkeeps⟩ := finishRefresh_of_error cfg s call err familyId now
      obtain rfl := Except.ok.inj (hs''.symm.trans h)
      rw [hkeeps.credentials, Function.update_of_ne hne]

variable (cfg s) in
theorem refresh_others (accountId : Uuid) (force : Bool) (input : RefreshInput) :
    Steady s (s.refreshOauthAccountInner cfg accountId force input) ∧ ∀ id, id ≠ accountId →
      (s.refreshOauthAccountInner cfg accountId force input).credentials id = s.credentials id := by
  unfold refreshOauthAccountInner
  split
  · rename_i call hcall
    split
    · rename_i s' hs'
      refine ⟨steady_finishRefresh hs', fun id hne => ?_⟩
      rw [← (startRefresh_eq_some hcall).1] at hne
      exact credentials_finishRefresh_of_ne hs' hne
    · exact ⟨.refl s, fun _ _ => rfl⟩
  · exact ⟨.refl s, fun _ _ => rfl⟩

variable (cfg s) in
theorem refreshAll_others (input : PassInput) (accountIds : List Uuid) :
    Steady s (s.refreshAll cfg input accountIds) ∧ ∀ id, id ∉ accountIds →
      (s.refreshAll cfg input accountIds).credentials id = s.credentials id := by
  induction accountIds generalizing s with
  | nil => exact ⟨.refl s, fun _ _ => rfl⟩
  | cons first accountIds ih =>
      obtain ⟨hsteady, hcredentials⟩ := refresh_others cfg s first false (input.refresh first)
      obtain ⟨hsteady', hcredentials'⟩ :=
        ih (s.refreshOauthAccountInner cfg first false (input.refresh first))
      refine ⟨hsteady.trans hsteady', fun id hid => ?_⟩
      rw [List.mem_cons, not_or] at hid
      exact (hcredentials' id hid.2).trans (hcredentials id hid.1)

/-! ## The selection -/

theorem accountPoolStateRecordInner_self (accountId : Uuid) (now : DateTime) :
    ((s.accountPoolStateRecordInner accountId now).accountPoolStateRecordInner accountId
      now).healthState accountId = (s.accountPoolStateRecordInner accountId now).healthState
        accountId := by
  unfold accountPoolStateRecordInner
  simp only [healthState_setHealthState, if_true]
  split_ifs with h h'
  · cases h'.1
  · rfl
  · rfl

theorem isExpiring_accountPoolStateRecordInner (input : PassInput) (accountId : Uuid)
    (account : UpstreamAccount) :
    (s.accountPoolStateRecordInner accountId (input.poolRead accountId)).isExpiring input account =
      s.isExpiring input account := by
  have hread : ((s.accountPoolStateRecordInner accountId
      (input.poolRead accountId)).accountPoolStateRecordInner account.id
        (input.poolRead account.id)).healthState account.id =
      (s.accountPoolStateRecordInner account.id (input.poolRead account.id)).healthState
        account.id := by
    by_cases hid : account.id = accountId
    · rw [hid]
      exact accountPoolStateRecordInner_self accountId _
    · unfold accountPoolStateRecordInner
      simp only [healthState_setHealthState, if_true, if_neg hid]
  unfold isExpiring
  rw [hread]
  rfl

theorem scanExpiring_fst (input : PassInput) (room : Nat) (accounts : List UpstreamAccount)
    (s : OAuthStore) :
    (scanExpiring input room accounts s).1 =
      ((accounts.filter (s.isExpiring input)).map (·.id)).take room := by
  induction accounts generalizing room s with
  | nil => cases room <;> rfl
  | cons account accounts ih =>
      cases room with
      | zero => rfl
      | succ room =>
          have hread := funext (isExpiring_accountPoolStateRecordInner (s := s) input account.id)
          by_cases henabled : account.enabled = true
          · by_cases hexpiring : s.isExpiring input account = true
            · simp [scanExpiring, henabled, hexpiring, ih, hread]
            · simp [scanExpiring, henabled, hexpiring, ih, hread]
          · have hnot : s.isExpiring input account = false := by simp [isExpiring, henabled]
            simp [scanExpiring, henabled, hnot, ih]

theorem expiringAccounts_eq (batchSize : Nat) (input : PassInput) :
    s.expiringAccounts batchSize input =
      ((s.accounts.filter (s.isExpiring input)).map (·.id)).take batchSize :=
  scanExpiring_fst input batchSize s.accounts s

theorem scanExpiring_snd (input : PassInput) (room : Nat) (accounts : List UpstreamAccount)
    (s : OAuthStore) :
    ∃ healthStates, (scanExpiring input room accounts s).2 =
      { s with healthStates := healthStates } := by
  induction accounts generalizing room s with
  | nil => cases room <;> exact ⟨_, rfl⟩
  | cons account accounts ih =>
      cases room with
      | zero => exact ⟨_, rfl⟩
      | succ room =>
          unfold scanExpiring
          split_ifs
          · exact ih _ _
          · obtain ⟨healthStates, h⟩ := ih room
              (s.accountPoolStateRecordInner account.id (input.poolRead account.id))
            exact ⟨healthStates, h⟩
          · obtain ⟨healthStates, h⟩ := ih (room + 1)
              (s.accountPoolStateRecordInner account.id (input.poolRead account.id))
            exact ⟨healthStates, h⟩

variable (s) in
theorem afterScan_others (batchSize : Nat) (input : PassInput) :
    Steady s (s.afterScan batchSize input) ∧
      (s.afterScan batchSize input).credentials = s.credentials := by
  obtain ⟨healthStates, h⟩ := scanExpiring_snd input batchSize s.accounts s
  unfold afterScan
  rw [h]
  exact ⟨⟨rfl, rfl, fun a ha => ⟨a, ha, rfl, id⟩⟩, rfl⟩

variable (cfg s) in
theorem refreshPass_others (batchSize : Nat) (input : PassInput) :
    Steady s (s.refreshPass cfg batchSize input) ∧
      ∀ id, id ∉ s.expiringAccounts batchSize input →
        (s.refreshPass cfg batchSize input).credentials id = s.credentials id := by
  obtain ⟨hsteady, hcredentials⟩ := s.afterScan_others batchSize input
  obtain ⟨hsteady', hcredentials'⟩ := refreshAll_others cfg (s.afterScan batchSize input) input
    (s.expiringAccounts batchSize input)
  refine ⟨hsteady.trans hsteady', fun id hid => (hcredentials' id hid).trans ?_⟩
  rw [hcredentials]

/-! ## What a refresh does to its account -/

theorem startRefresh_of_due {credential : OAuthCredentialRecord}
    {started : DateTime} (hid : accountId ∈ s.ids) (hoauth : s.isOauth accountId = true)
    (hcredential : s.credentials accountId = some credential)
    (hcovered : credential.coveredByFallback started = false)
    (hexpires : credential.tokenExpiresAt ≤ started + oauthRefreshWindow)
    (hbackoff : credential.inBackoff started = false) {cipher : CredentialCipher}
    (hcipher : cfg.credentialCipher = some cipher) {token : String}
    (hdecrypt : cipher.decrypt credential.refreshTokenEnc = .ok token) :
    ∃ call, s.startRefresh cfg accountId false started = .ok (some call) ∧
      call.accountId = accountId ∧ call.credential = credential ∧ call.now = started := by
  cases haccount : s.account? accountId with
  | none => exact absurd hid (Keyed.lookupBy_eq_none_iff.1 haccount)
  | some a =>
      refine ⟨⟨accountId, a.baseUrl, credential, token, started⟩, ?_, rfl, rfl, rfl⟩
      simp only [startRefresh, haccount, hoauth, hcredential, hcovered, hexpires, hbackoff,
        OAuthConfig.requireCredentialCipher_eq_ok.2 hcipher, hdecrypt, bind, Except.bind, pure,
        Except.pure]
      rfl

/-- After the refresh the account is not due at a later time: the new tokens are valid for longer,
or the account is in backoff or out of the pool. -/
def Leaves (credential : OAuthCredentialRecord) (input : RefreshInput) (now : DateTime) : Prop :=
  match input.answer with
  | .ok info => now + oauthRefreshWindow < info.expiresAt
  | .error err =>
    (credential.failed err input.started).inBackoff now = true ∨
      shouldRevokeOauthTokenFamily err.code.asStr = true ∨
        isFatalRefreshErrorCode (some err.code.asStr) = true ∧
          hasUsableAccessTokenFallback input.started credential.hasAccessTokenFallback
            credential.fallbackTokenExpiresAt = false

/-- The account is not taken at the time. -/
def Parked (s : OAuthStore) (accountId : Uuid) (now : DateTime) : Prop :=
  s.Disabled accountId ∨ ∃ c, s.credentials accountId = some c ∧
    (c.inBackoff now = true ∨ now + oauthRefreshWindow < c.tokenExpiresAt)

theorem mem_expiringAccounts {batchSize : Nat} {input : PassInput}
    (h : accountId ∈ s.expiringAccounts batchSize input) :
    accountId ∈ s.ids ∧ s.isOauth accountId = true ∧ ¬ s.Disabled accountId ∧
      ∃ c, s.credentials accountId = some c ∧ c.inBackoff input.now = false ∧
        c.tokenExpiresAt ≤ input.now + oauthRefreshWindow := by
  rw [expiringAccounts_eq] at h
  obtain ⟨a, ha, rfl⟩ := List.mem_map.1 (List.mem_of_mem_take h)
  obtain ⟨hmem, hexpiring⟩ := List.mem_filter.1 ha
  unfold isExpiring at hexpiring
  simp only [Bool.and_eq_true, Option.any_eq_true, Bool.not_eq_true',
    decide_eq_true_eq] at hexpiring
  obtain ⟨⟨⟨henabled, -⟩, hoauth⟩, c, hc, hbackoff, hexpires⟩ := hexpiring
  refine ⟨mem_ids hmem, hoauth, fun hdisabled => ?_, c, hc, hbackoff, hexpires⟩
  rw [hdisabled a hmem rfl] at henabled
  cases henabled

theorem Parked.not_mem {input : PassInput} (h : s.Parked accountId input.now)
    (batchSize : Nat) : accountId ∉ s.expiringAccounts batchSize input := by
  intro hmem
  obtain ⟨-, -, hnot, c, hc, hbackoff, hexpires⟩ := mem_expiringAccounts hmem
  obtain hdisabled | ⟨c', hc', hlater⟩ := h
  · exact hnot hdisabled
  · obtain rfl := Option.some.inj (hc.symm.trans hc')
    obtain hlater | hlater := hlater
    · rw [hbackoff] at hlater
      cases hlater
    · exact absurd hexpires (not_le.2 hlater)

def Storable (cfg : OAuthConfig) (answer : RefreshAnswer) : Prop :=
  ∀ info, answer = .ok info → ∃ cipher, cfg.credentialCipher = some cipher ∧
    (∃ enc, cipher.encrypt info.accessToken = .ok enc) ∧
      ∃ enc, cipher.encrypt info.refreshToken = .ok enc

/-- A refresh that sends a call leaves the account disabled or with a record that says when it is
due again. -/
theorem refresh_parks {input : RefreshInput}
    (hcall : s.startRefresh cfg accountId false input.started = .ok (some call))
    (hnow : call.now = input.started) (hstorable : Storable cfg input.answer) :
    (s.refreshOauthAccountInner cfg accountId false input).Disabled accountId ∨
      ∃ c, (s.refreshOauthAccountInner cfg accountId false input).credentials accountId = some c ∧
        ∀ now, Leaves call.credential input now →
          c.inBackoff now = true ∨ now + oauthRefreshWindow < c.tokenExpiresAt := by
  obtain ⟨started, answer, familyId, finished⟩ := input
  have hid := (startRefresh_eq_some hcall).1
  dsimp only at hnow hcall hstorable
  cases answer with
  | ok info =>
      obtain ⟨cipher, hcipher, haccess, hrefresh⟩ := hstorable info rfl
      obtain ⟨s', hs'⟩ :=
        finishRefresh_ok_of_encrypts s call familyId finished hcipher haccess hrefresh
      have hexpires : ∃ c, s'.credentials call.accountId = some c ∧
          c.tokenExpiresAt = info.expiresAt := by
        unfold finishRefresh at hs'
        simp only [Result.bind_eq_ok] at hs'
        obtain ⟨_, -, base, hbase, hs'⟩ := hs'
        obtain rfl := Except.ok.inj hs'
        unfold OAuthCredentialRecord.fromTokenInfo at hbase
        simp only [Result.bind_eq_ok, pure, Except.pure, Except.ok.injEq] at hbase
        obtain ⟨_, -, _, -, rfl⟩ := hbase
        split_ifs
        · exact ⟨_, Function.update_self _ _ _, rfl⟩
        · exact ⟨_, Function.update_self _ _ _, rfl⟩
      obtain ⟨c, hc, hexpires⟩ := hexpires
      refine .inr ⟨c, ?_, fun now hleaves => .inr ?_⟩
      · simp only [refreshOauthAccountInner, hcall, hs']
        rw [← hid]
        exact hc
      · rw [hexpires]
        exact hleaves
  | error err =>
      obtain ⟨s', hs', hkeeps⟩ := finishRefresh_of_error cfg s call err familyId finished
      have hstore : s.refreshOauthAccountInner cfg accountId false
          ⟨started, .error err, familyId, finished⟩ = s' := by
        simp only [refreshOauthAccountInner, hcall, hs']
      rw [hstore]
      have hfailed : s'.credentials accountId = some (call.credential.failed err call.now) := by
        rw [hkeeps.credentials, hid, Function.update_self]
      have hfinish := hs'
      unfold finishRefresh at hfinish
      replace hfinish := Except.ok.inj hfinish
      split_ifs at hfinish with hreused hfatal
      · refine .inl (hfinish ▸ ?_)
        unfold markOauthFamilyPendingPurgeInner
        refine disabled_foldl (List.mem_filter.2 ⟨?_, ?_⟩) _ _
        · obtain ⟨-, ⟨a, ha⟩, -⟩ := startRefresh_eq_some hcall
          exact Keyed.key_of_lookupBy ha ▸ mem_ids (List.mem_of_find?_eq_some ha)
        · have hself : (s.upsertOauthCredential call.accountId
              (call.credential.failed err call.now)).credentials accountId =
                some (call.credential.failed err call.now) := by
            rw [← hid]
            exact Function.update_self _ _ _
          unfold inFamily
          rw [hself]
          simp
      · refine .inl (hfinish ▸ ?_)
        rw [hid]
        exact disabled_markUpstreamAccountPendingPurgeInner accountId _ _
      · refine .inr ⟨_, hfailed, fun now hleaves => .inl ?_⟩
        rw [hnow]
        obtain hbackoff | hrevoked | ⟨hcode, hfallback⟩ := hleaves
        · exact hbackoff
        · exact absurd hrevoked hreused
        · rw [Bool.and_eq_true, not_and, Bool.not_eq_true', Bool.not_eq_false] at hfatal
          have husable := hfatal hcode
          rw [hnow] at husable
          exact absurd (hfallback.symm.trans husable) Bool.false_ne_true

/-! ## Sweeps of the in-memory store -/

section Sweep

variable (cfg s) (batchSize : Nat) (inputs : Nat → PassInput)

/-- The account is due when a pass begins. -/
def DueAt (n : Nat) (accountId : Uuid) : Prop :=
  ∃ a ∈ (s.afterPasses cfg batchSize inputs n).accounts, a.id = accountId ∧
    (s.afterPasses cfg batchSize inputs n).isExpiring (inputs n) a = true

def ActsAt (n : Nat) (accountId : Uuid) : Prop :=
  ∃ call, ((s.afterPasses cfg batchSize inputs n).afterScan batchSize (inputs n)).startRefresh cfg
    accountId false ((inputs n).refresh accountId).started = .ok (some call)

/-- Every account that a pass takes has no fallback token in place of its invalid one, can have
its token decrypted and its new tokens encrypted, and is not due again while the sweep lasts. -/
def SweepSafe : Prop :=
  ∀ n, Sweep.Runs (s.sweepBatch cfg batchSize inputs) batchSize n →
    ∀ accountId ∈ s.sweepBatch cfg batchSize inputs n, ∀ c,
      (s.afterPasses cfg batchSize inputs n).credentials accountId = some c →
        c.coveredByFallback ((inputs n).refresh accountId).started = false ∧
        (∃ cipher token, cfg.credentialCipher = some cipher ∧
          cipher.decrypt c.refreshTokenEnc = .ok token) ∧
        Storable cfg ((inputs n).refresh accountId).answer ∧
        ∀ m, n < m → Sweep.Runs (s.sweepBatch cfg batchSize inputs) batchSize m →
          Leaves c ((inputs n).refresh accountId) (inputs m).now

variable {cfg s batchSize inputs}

variable (cfg s batchSize inputs) in
theorem steady_afterPasses (n : Nat) : Steady s (s.afterPasses cfg batchSize inputs n) := by
  induction n with
  | zero => exact .refl s
  | succ n ih => exact ih.trans (refreshPass_others cfg _ batchSize (inputs n)).1

theorem nodup_sweepBatch (hkeyed : s.WellKeyed) (n : Nat) :
    (s.sweepBatch cfg batchSize inputs n).Nodup := by
  have hids : (s.afterPasses cfg batchSize inputs n).ids.Nodup := by
    rw [(steady_afterPasses cfg s batchSize inputs n).ids]
    exact hkeyed
  unfold sweepBatch
  rw [expiringAccounts_eq]
  exact (hids.sublist (List.filter_sublist.map _)).sublist (List.take_sublist _ _)

variable {accountId : Uuid}

/-- The refresh of an account that is taken sends a call. -/
theorem startRefresh_of_mem_expiringAccounts {input : PassInput}
    {c : OAuthCredentialRecord} {started : DateTime}
    (hmem : accountId ∈ s.expiringAccounts batchSize input) (hsteady : Steady s s')
    (hc : s.credentials accountId = some c) (hc' : s'.credentials accountId = some c)
    (hclock : input.now ≤ started) (hcovered : c.coveredByFallback started = false)
    {cipher : CredentialCipher} {token : String} (hcipher : cfg.credentialCipher = some cipher)
    (hdecrypt : cipher.decrypt c.refreshTokenEnc = .ok token) :
    ∃ call, s'.startRefresh cfg accountId false started = .ok (some call) ∧
      call.accountId = accountId ∧ call.credential = c ∧ call.now = started := by
  obtain ⟨hid, hoauth, -, c', hc'', hbackoff, hexpires⟩ := mem_expiringAccounts hmem
  obtain rfl := Option.some.inj (hc.symm.trans hc'')
  have hoauth' : s'.isOauth accountId = true := by
    unfold isOauth at hoauth ⊢
    rw [hsteady.providers]
    exact hoauth
  refine startRefresh_of_due (hsteady.ids.symm ▸ hid) hoauth' hc' hcovered ?_ ?_ hcipher hdecrypt
  · exact hexpires.trans (Int.add_le_add_right hclock _)
  · unfold OAuthCredentialRecord.inBackoff at hbackoff ⊢
    cases hbackoffUntil : c.refreshBackoffUntil with
    | none => rfl
    | some untilTime =>
        rw [hbackoffUntil] at hbackoff
        simp only [Option.any_some, decide_eq_false_iff_not, not_lt] at hbackoff ⊢
        exact hbackoff.trans hclock

theorem refreshAll_append (input : PassInput) (accountIds accountIds' : List Uuid) :
    s.refreshAll cfg input (accountIds ++ accountIds') =
      (s.refreshAll cfg input accountIds).refreshAll cfg input accountIds' :=
  List.foldl_append

/-- After a pass each account that was taken is disabled or says when it is due again. -/
theorem refreshPass_parks {input : PassInput} {c : OAuthCredentialRecord}
    (hnd : (s.expiringAccounts batchSize input).Nodup)
    (hexpiring : accountId ∈ s.expiringAccounts batchSize input)
    (hc : s.credentials accountId = some c) (hclock : input.now ≤ (input.refresh accountId).started)
    (hcovered : c.coveredByFallback (input.refresh accountId).started = false)
    {cipher : CredentialCipher} {token : String} (hcipher : cfg.credentialCipher = some cipher)
    (hdecrypt : cipher.decrypt c.refreshTokenEnc = .ok token)
    (hstorable : Storable cfg (input.refresh accountId).answer) :
    (s.refreshPass cfg batchSize input).Disabled accountId ∨
      ∃ c', (s.refreshPass cfg batchSize input).credentials accountId = some c' ∧
        ∀ now, Leaves c (input.refresh accountId) now →
          c'.inBackoff now = true ∨ now + oauthRefreshWindow < c'.tokenExpiresAt := by
  obtain ⟨before, after, hsplit⟩ := List.append_of_mem hexpiring
  rw [hsplit] at hnd
  obtain ⟨-, hnd', hdisjoint⟩ := List.nodup_append.1 hnd
  have hbefore : accountId ∉ before := fun h => hdisjoint _ h _ List.mem_cons_self rfl
  have hafter : accountId ∉ after := (List.nodup_cons.1 hnd').1
  obtain ⟨hscan, hcredentials⟩ := s.afterScan_others batchSize input
  unfold refreshPass
  rw [hsplit, refreshAll_append]
  generalize s.afterScan batchSize input = scanned at hscan hcredentials ⊢
  obtain ⟨hsteady, hothers⟩ := refreshAll_others cfg scanned input before
  have hc' : (scanned.refreshAll cfg input before).credentials accountId = some c := by
    rw [hothers accountId hbefore, hcredentials, hc]
  obtain ⟨call, hcall, -, rfl, hnow⟩ := startRefresh_of_mem_expiringAccounts hexpiring
    (hscan.trans hsteady) hc hc' hclock hcovered hcipher hdecrypt
  -- what its own refresh leaves, the refreshes after it keep
  obtain ⟨hsteady', hothers'⟩ := refreshAll_others cfg
    ((scanned.refreshAll cfg input before).refreshOauthAccountInner cfg accountId false
      (input.refresh accountId)) input after
  obtain hdisabled | ⟨c', hc', hleaves⟩ := refresh_parks hcall hnow hstorable
  · exact .inl (hdisabled.steady hsteady')
  · exact .inr ⟨c', (hothers' accountId hafter).trans hc', hleaves⟩

variable (hkeyed : s.WellKeyed) (hbatch : 0 < batchSize)
  (hclock : ∀ n accountId, (inputs n).now ≤ ((inputs n).refresh accountId).started)
  (hsafe : SweepSafe cfg s batchSize inputs)

include hkeyed hclock hsafe

/-- An account that was taken is taken no more. -/
theorem sweepBatch_once {n m : Nat} (hnm : n < m)
    (hruns : Sweep.Runs (s.sweepBatch cfg batchSize inputs) batchSize m)
    (hmem : accountId ∈ s.sweepBatch cfg batchSize inputs n) :
    accountId ∉ s.sweepBatch cfg batchSize inputs m := by
  have hrunsn : Sweep.Runs (s.sweepBatch cfg batchSize inputs) batchSize n :=
    fun k hk => hruns k (hk.trans hnm)
  obtain ⟨-, -, -, c, hc, -⟩ := mem_expiringAccounts hmem
  obtain ⟨hcovered, ⟨cipher, token, hcipher, hdecrypt⟩, hstorable, hleaves⟩ :=
    hsafe n hrunsn accountId hmem c hc
  have hparks := refreshPass_parks (nodup_sweepBatch hkeyed n) hmem hc (hclock n accountId)
    hcovered hcipher hdecrypt hstorable
  -- by induction on the passes since, nothing has touched the account
  have hkept : ∀ k, n < k → Sweep.Runs (s.sweepBatch cfg batchSize inputs) batchSize k →
      (s.afterPasses cfg batchSize inputs k).Disabled accountId ∨
        ∃ c', (s.afterPasses cfg batchSize inputs k).credentials accountId = some c' ∧
          ∀ now, Leaves c ((inputs n).refresh accountId) now →
            c'.inBackoff now = true ∨ now + oauthRefreshWindow < c'.tokenExpiresAt := by
    intro k hk hrunsk
    induction k, hk using Nat.le_induction with
    | base => exact hparks
    | succ k hk ih =>
        have hk' := ih hrunsk.of_succ
        have hnot : accountId ∉ s.sweepBatch cfg batchSize inputs k := by
          refine Parked.not_mem ?_ batchSize
          refine hk'.imp_right ?_
          rintro ⟨c', hc', hdue⟩
          exact ⟨c', hc', hdue _ (hleaves k hk hrunsk.of_succ)⟩
        obtain ⟨hsteady, hothers⟩ := refreshPass_others cfg
          (s.afterPasses cfg batchSize inputs k) batchSize (inputs k)
        obtain hdisabled | ⟨c', hc', hdue⟩ := hk'
        · exact .inl (hdisabled.steady hsteady)
        · exact .inr ⟨c', (hothers accountId hnot).trans hc', hdue⟩
  refine Parked.not_mem ?_ batchSize
  refine (hkept m hnm hruns).imp_right ?_
  rintro ⟨c', hc', hdue⟩
  exact ⟨c', hc', hdue _ (hleaves m hnm hruns)⟩

include hbatch

theorem sweep_progress :
    Sweep.Progress (s.sweepBatch cfg batchSize inputs) batchSize (ActsAt cfg s batchSize inputs)
      (DueAt cfg s batchSize inputs) where
  acts n hruns accountId hmem := by
    obtain ⟨-, -, -, c, hc, -⟩ := mem_expiringAccounts hmem
    obtain ⟨hcovered, ⟨cipher, token, hcipher, hdecrypt⟩, -⟩ := hsafe n hruns accountId hmem c hc
    obtain ⟨hscan, hcredentials⟩ :=
      (s.afterPasses cfg batchSize inputs n).afterScan_others batchSize (inputs n)
    obtain ⟨call, hcall, -⟩ := startRefresh_of_mem_expiringAccounts hmem hscan hc
      (hcredentials ▸ hc) (hclock n accountId) hcovered hcipher hdecrypt
    exact ⟨call, hcall⟩
  once n m hnm hruns accountId hmem := sweepBatch_once hkeyed hclock hsafe hnm hruns hmem
  ends := by
    refine Sweep.ends_of_once hbatch (fun n => ?_) (nodup_sweepBatch hkeyed)
      (fun n m hnm hruns accountId hmem => sweepBatch_once hkeyed hclock hsafe hnm hruns hmem) s.ids
      fun n accountId hmem => ?_
    · unfold sweepBatch
      rw [expiringAccounts_eq]
      exact List.length_take_le _ _
    · rw [← (steady_afterPasses cfg s batchSize inputs n).ids]
      exact (mem_expiringAccounts hmem).1
  complete n _ hshort accountId hdue := by
    obtain ⟨a, ha, rfl, hexpiring⟩ := hdue
    unfold sweepBatch at hshort ⊢
    rw [expiringAccounts_eq] at hshort ⊢
    rw [List.length_take] at hshort
    rw [List.take_of_length_le (by omega)]
    exact List.mem_map_of_mem (List.mem_filter.2 ⟨ha, hexpiring⟩)

end Sweep

end OAuthStore

/-! ## Sweeps of the database -/

/-- What one refresh of a pass meets when the accounts are in the database. -/
structure PgRefreshInput where
  started : DateTime
  upstream : String → String → RefreshAnswer
  finished : DateTime

structure PgPassInput where
  now : DateTime
  refresh : Uuid → PgRefreshInput

namespace PgOAuthDb

variable (cfg : OAuthConfig) (schedule : RefreshSchedule) (db : PgOAuthDb)

/-- The codes that end the refreshes of a credential. -/
def terminalRefreshErrorCodes : List String :=
  ["refresh_token_reused", "refresh_token_revoked", "invalid_refresh_token", "missing_client_id",
    "unauthorized_client"]

/-- The row of an account, joined with its credential, meets the condition of the query. -/
def isExpiring (now : DateTime) (account : PgAccountRow) (credential : PgCredentialRow) : Bool :=
  account.authProvider = "oauth_refresh_token" && account.enabled &&
    account.poolState = "active" && !credential.refreshReusedDetected &&
    !(credential.lastRefreshStatus = "failed" &&
      terminalRefreshErrorCodes.contains
        (Text.toAsciiLowercase (credential.lastRefreshErrorCode.getD ""))) &&
    decide (credential.nextRefreshAt.getD credential.tokenExpiresAt ≤ now + oauthRefreshWindow) &&
    !credential.refreshBackoffUntil.any (now < ·) && !credential.refreshInflightUntil.any (now < ·)

/-- The accounts that meet the condition, each with the time it is ordered by. -/
def expiringRows (now : DateTime) : List (Uuid × DateTime) :=
  db.accounts.filterMap fun account =>
    (db.credentials account.id).bind fun credential =>
      if isExpiring now account credential then
        some (account.id, credential.nextRefreshAt.getD credential.tokenExpiresAt)
      else none

def expiringAccounts (batchSize : Nat) (now : DateTime) : List Uuid :=
  (((db.expiringRows now).mergeSort fun a b => a.2 ≤ b.2).take batchSize).map (·.1)

def refreshAll (input : PgPassInput) (accountIds : List Uuid) : PgOAuthDb :=
  accountIds.foldl (fun db accountId =>
    let refresh := input.refresh accountId
    (db.refreshOauthAccountInner cfg schedule accountId false refresh.started refresh.upstream
      refresh.finished).db) db

def afterPasses (batchSize : Nat) (inputs : Nat → PgPassInput) : Nat → PgOAuthDb
  | 0 => db
  | n + 1 =>
    let db := afterPasses batchSize inputs n
    db.refreshAll cfg schedule (inputs n) (db.expiringAccounts batchSize (inputs n).now)

def sweepBatch (batchSize : Nat) (inputs : Nat → PgPassInput) (n : Nat) : List Uuid :=
  (db.afterPasses cfg schedule batchSize inputs n).expiringAccounts batchSize (inputs n).now

def DueAt (batchSize : Nat) (inputs : Nat → PgPassInput) (n : Nat) (accountId : Uuid) : Prop :=
  accountId ∈ ((db.afterPasses cfg schedule batchSize inputs n).expiringRows (inputs n).now).map
    (·.1)

/-- The refresh of the account goes ahead. -/
def ActsAt (batchSize : Nat) (inputs : Nat → PgPassInput) (n : Nat) (accountId : Uuid) : Prop :=
  ∃ row, (db.afterPasses cfg schedule batchSize inputs n).readRefresh accountId false
    ((inputs n).refresh accountId).started = .ok (some row)

variable {db}

theorem expiringRows_eq_nil {now : DateTime} :
    db.expiringRows now = [] ↔ ∀ account ∈ db.accounts, ∀ credential,
      db.credentials account.id = some credential → isExpiring now account credential = false := by
  simp [expiringRows, List.filterMap_eq_nil_iff]

theorem expiringAccounts_eq_nil {batchSize : Nat} (hbatch : 0 < batchSize) {now : DateTime} :
    db.expiringAccounts batchSize now = [] ↔ db.expiringRows now = [] := by
  unfold expiringAccounts
  rw [List.map_eq_nil_iff, List.take_eq_nil_iff, ← List.length_eq_zero_iff,
    List.length_mergeSort, List.length_eq_zero_iff]
  exact or_iff_right hbatch.ne'

/-- A sweep of the database makes progress only when it has nothing to do: no account that it
takes is refreshed. -/
theorem sweep_progress_iff {batchSize : Nat} (hbatch : 0 < batchSize)
    (inputs : Nat → PgPassInput) :
    Sweep.Progress (db.sweepBatch cfg schedule batchSize inputs) batchSize
        (ActsAt cfg schedule db batchSize inputs) (DueAt cfg schedule db batchSize inputs) ↔
      ∀ account ∈ db.accounts, ∀ credential, db.credentials account.id = some credential →
        isExpiring (inputs 0).now account credential = false := by
  rw [← expiringRows_eq_nil, ← expiringAccounts_eq_nil hbatch]
  constructor
  · intro hprogress
    refine List.eq_nil_iff_forall_not_mem.2 fun accountId hmem => ?_
    obtain ⟨row, hrow⟩ :=
      hprogress.acts 0 (fun m hm => absurd hm (Nat.not_lt_zero m)) accountId hmem
    exact readRefresh_ne_some _ _ _ _ row hrow
  · intro hnil
    have hfirst : db.sweepBatch cfg schedule batchSize inputs 0 = [] := hnil
    have hshort : ¬ (db.sweepBatch cfg schedule batchSize inputs 0).length = batchSize := by
      rw [hfirst]
      exact hbatch.ne
    have hruns {n : Nat}
        (h : Sweep.Runs (db.sweepBatch cfg schedule batchSize inputs) batchSize n) :
        n = 0 := by
      by_contra hn
      exact hshort (h 0 (Nat.pos_of_ne_zero hn))
    refine ⟨fun n h k hk => ?_, fun m n hmn h => ?_, ⟨0, ?_, ?_, ?_⟩, fun n h _ k hk => ?_⟩
    · obtain rfl := hruns h
      rw [hfirst] at hk
      cases hk
    · obtain rfl := hruns h
      exact absurd hmn (Nat.not_lt_zero m)
    · exact fun m hm => absurd hm (Nat.not_lt_zero m)
    · rw [hfirst]
      exact hbatch
    · exact Nat.le_add_left _ _
    · obtain rfl := hruns h
      have hrows : db.expiringRows (inputs 0).now = [] := (expiringAccounts_eq_nil hbatch).1 hnil
      change k ∈ (db.expiringRows (inputs 0).now).map (·.1) at hk
      rw [hrows] at hk
      cases hk

end PgOAuthDb

/-! ## Whether sweeps make progress -/

/-- Sweeps of the in-memory store make progress as long as the accounts that they take can be
refreshed and stay refreshed; sweeps of the database only when they have nothing to do. -/
theorem refreshSweep_progress (cfg : OAuthConfig) {batchSize : Nat} (hbatch : 0 < batchSize) :
    (∀ (s : OAuthStore) (inputs : Nat → PassInput), s.WellKeyed →
      (∀ n accountId, (inputs n).now ≤ ((inputs n).refresh accountId).started) →
      OAuthStore.SweepSafe cfg s batchSize inputs →
      Sweep.Progress (s.sweepBatch cfg batchSize inputs) batchSize
        (OAuthStore.ActsAt cfg s batchSize inputs) (OAuthStore.DueAt cfg s batchSize inputs)) ∧
    ∀ (schedule : RefreshSchedule) (db : PgOAuthDb) (inputs : Nat → PgPassInput),
      Sweep.Progress (db.sweepBatch cfg schedule batchSize inputs) batchSize
          (PgOAuthDb.ActsAt cfg schedule db batchSize inputs)
          (PgOAuthDb.DueAt cfg schedule db batchSize inputs) ↔
        ∀ account ∈ db.accounts, ∀ credential, db.credentials account.id = some credential →
          PgOAuthDb.isExpiring (inputs 0).now account credential = false :=
  ⟨fun _ _ hkeyed hclock hsafe => OAuthStore.sweep_progress hkeyed hbatch hclock hsafe,
    fun schedule _ inputs => PgOAuthDb.sweep_progress_iff cfg schedule hbatch inputs⟩

namespace OAuthWorld

/-- Every refresh of the sweep is answered with tokens that are valid for an hour. -/
def answeredPass : PassInput where
  now := 0
  poolRead := fun _ => 0
  refresh := fun _ => ⟨0, .ok (userTokens "token-a2"), "family-a", 0⟩

/-- The account is in a quarantine that is over when the sweep begins. -/
def releasedStore : OAuthStore :=
  { dueStore with
    healthStates := fun _ => some { UpstreamAccountHealthStateRecord.default with
      poolState := .quarantine
      quarantineUntil := some 0 } }

theorem releasedStore_sweepSafe :
    OAuthStore.SweepSafe plainConfig releasedStore 1 fun _ => answeredPass := by
  intro n hruns accountId hmem c hc
  -- only the first pass takes an account
  have hnil : releasedStore.sweepBatch plainConfig 1 (fun _ => answeredPass) 1 = [] := by
    decide +kernel
  obtain rfl : n = 0 := by
    obtain _ | _ | n := n
    · rfl
    · rw [hnil] at hmem
      cases hmem
    · have hfull := hruns 1 (by omega)
      rw [hnil] at hfull
      cases hfull
  have hfirst : releasedStore.sweepBatch plainConfig 1 (fun _ => answeredPass) 0 = [⟨"a"⟩] := by
    decide +kernel
  rw [hfirst, List.mem_singleton] at hmem
  subst hmem
  obtain rfl : plainCredential "token-a" 0 = c := Option.some.inj hc
  refine ⟨by decide, ⟨plainCipher, "token-a", rfl, rfl⟩, ?_, fun _ _ _ => ?_⟩
  · rintro _ ⟨⟩
    exact ⟨plainCipher, rfl, ⟨_, rfl⟩, ⟨_, rfl⟩⟩
  · change 0 + oauthRefreshWindow < seconds 3600
    decide

def idlePass : PgPassInput where
  now := 0
  refresh := fun _ => ⟨0, PgOAuthDb.unavailable, 0⟩

theorem releasedStore_sweep_progress :
    Sweep.Progress (releasedStore.sweepBatch plainConfig 1 fun _ => answeredPass) 1
        (OAuthStore.ActsAt plainConfig releasedStore 1 fun _ => answeredPass)
        (OAuthStore.DueAt plainConfig releasedStore 1 fun _ => answeredPass) ∧
      ¬ Sweep.Progress
        (PgOAuthDb.dueDb.sweepBatch plainConfig PgOAuthDb.promptSchedule 1 fun _ => idlePass) 1
        (PgOAuthDb.ActsAt plainConfig PgOAuthDb.promptSchedule PgOAuthDb.dueDb 1 fun _ => idlePass)
        (PgOAuthDb.DueAt plainConfig PgOAuthDb.promptSchedule PgOAuthDb.dueDb 1
          fun _ => idlePass) := by
  obtain ⟨hmemory, hdatabase⟩ := refreshSweep_progress plainConfig Nat.one_pos
  refine ⟨hmemory releasedStore _ (List.nodup_singleton _) (fun _ _ => le_refl _)
    releasedStore_sweepSafe, ?_⟩
  rw [hdatabase]
  intro hnone
  have hdue := hnone PgOAuthDb.dueAccount List.mem_cons_self PgOAuthDb.dueCredential rfl
  have : PgOAuthDb.isExpiring 0 PgOAuthDb.dueAccount PgOAuthDb.dueCredential = true := by
    decide +kernel
  exact Bool.false_ne_true (hdue.symm.trans this)

/-- The refresh token of the account has been used elsewhere, and a fallback token is there. -/
def coveredStore : OAuthStore :=
  { dueStore with
    credentials := fun _ => some { plainCredential "token-a" 0 with
      lastRefreshStatus := .failed
      refreshReusedDetected := true
      fallbackAccessTokenEnc := some "fallback"
      fallbackTokenExpiresAt := some (seconds 3600) }
    healthStates := fun _ => some .default }

/-- A sweep of an account that its fallback token covers takes it again and again. -/
theorem coveredStore_runs (n : Nat) :
    Sweep.Runs (coveredStore.sweepBatch plainConfig 1 fun _ => answeredPass) 1 n := by
  have hscan : coveredStore.afterScan 1 answeredPass = coveredStore :=
    congrArg (fun healthStates => { coveredStore with healthStates := healthStates })
      (Function.update_eq_self (⟨"a"⟩ : Uuid) coveredStore.healthStates)
  have hpass : coveredStore.refreshPass plainConfig 1 answeredPass = coveredStore := by
    unfold OAuthStore.refreshPass
    rw [hscan]
    rfl
  have hstore (m : Nat) :
      coveredStore.afterPasses plainConfig 1 (fun _ => answeredPass) m = coveredStore := by
    induction m with
    | zero => rfl
    | succ m ih =>
        rw [OAuthStore.afterPasses, ih]
        exact hpass
  refine Sweep.runs_of_const (fun m => ?_) (by decide +kernel) n
  unfold OAuthStore.sweepBatch
  rw [hstore m]
  rfl

theorem sweep_not_progress :
    ¬ Sweep.Progress (coveredStore.sweepBatch plainConfig 1 fun _ => answeredPass) 1
        (OAuthStore.ActsAt plainConfig coveredStore 1 fun _ => answeredPass)
        (OAuthStore.DueAt plainConfig coveredStore 1 fun _ => answeredPass) ∧
      ¬ Sweep.Progress
        (PgOAuthDb.dueDb.sweepBatch plainConfig PgOAuthDb.promptSchedule 1 fun _ => idlePass) 1
        (PgOAuthDb.ActsAt plainConfig PgOAuthDb.promptSchedule PgOAuthDb.dueDb 1 fun _ => idlePass)
        (PgOAuthDb.DueAt plainConfig PgOAuthDb.promptSchedule PgOAuthDb.dueDb 1
          fun _ => idlePass) := by
  constructor
  · intro hprogress
    obtain ⟨n, -, hshort, -⟩ := hprogress.ends
    have hfull := coveredStore_runs (n + 1) n (Nat.lt_succ_self n)
    omega
  · intro hprogress
    have hfirst : PgOAuthDb.dueAccount.id ∈ PgOAuthDb.dueDb.sweepBatch plainConfig
        PgOAuthDb.promptSchedule 1 (fun _ => idlePass) 0 := by decide +kernel
    obtain ⟨row, hrow⟩ :=
      hprogress.acts 0 (fun m hm => absurd hm (Nat.not_lt_zero m)) _ hfirst
    exact PgOAuthDb.readRefresh_ne_some _ _ _ _ row hrow

end OAuthWorld

end CodexPool
