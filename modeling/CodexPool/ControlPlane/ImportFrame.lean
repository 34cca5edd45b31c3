import CodexPool.ControlPlane.OAuthImport
import Mathlib.Data.Prod.Lex
import Mathlib.Data.String.Basic

/-!
# What an import touches

An import stores its tokens for one account and then deletes every account of which a later
one has the same identity: of the identity that was imported, or of any identity when the
answer names none. A record of the vault that is ready goes to the account with its refresh
token, or to one that only shares its workspace.
-/

namespace CodexPool

/-! ## The order of accounts -/

namespace UpstreamAccount

/-- An account is compared by the time of its creation, and then by its id. -/
def createdKey (a : UpstreamAccount) : Lex (DateTime × String) := toLex (a.createdAt, a.id.text)

theorem notAfter_iff {a b : UpstreamAccount} : a.NotAfter b ↔ a.createdKey ≤ b.createdKey := by
  rw [createdKey, createdKey, Prod.Lex.toLex_le_toLex]
  rfl

instance : Std.Total NotAfter where
  total a b := by
    simp only [notAfter_iff]
    exact le_total _ _

instance : IsTrans UpstreamAccount NotAfter where
  trans _ _ _ hab hbc := notAfter_iff.2 ((notAfter_iff.1 hab).trans (notAfter_iff.1 hbc))

theorem id_eq_of_createdKey_eq {a b : UpstreamAccount} (h : a.createdKey = b.createdKey) :
    a.id = b.id :=
  congrArg Uuid.mk (Prod.mk.inj (toLex.injective h)).2

theorem NotAfter.id_eq {a b : UpstreamAccount} (hab : a.NotAfter b) (hba : b.NotAfter a) :
    a.id = b.id :=
  id_eq_of_createdKey_eq (le_antisymm (notAfter_iff.1 hab) (notAfter_iff.1 hba))

end UpstreamAccount

namespace OAuthStore

variable {cfg : OAuthConfig} {s : OAuthStore}

/-- Every account is stored under one key. -/
def WellKeyed (s : OAuthStore) : Prop := (s.accounts.map (·.id)).Nodup

variable {a : UpstreamAccount}

theorem mem_oauthAccounts :
    a ∈ s.oauthAccounts ↔ a ∈ s.accounts ∧ s.isOauth a.id = true := List.mem_filter

/-! ## Deleting duplicates -/

def LatestOfIdentity (s : OAuthStore) (target : Option String) (a : UpstreamAccount) : Prop :=
  s.isOauth a.id = true → ∀ key, s.identityKey a = some key → target.all (· = key) = true →
    ∀ b ∈ s.oauthAccounts, s.identityKey b = some key → b.NotAfter a

theorem duplicate_eq (target : Option String) (a : UpstreamAccount) :
    s.duplicate target a = (s.isOauth a.id && Latest.superseded UpstreamAccount.NotAfter (·.id)
      s.identityKey (fun key => target.all (· = key)) s.oauthAccounts a) := by
  unfold duplicate Latest.superseded latest
  cases s.identityKey a <;> rfl

theorem duplicate_eq_false_iff (hkeyed : s.WellKeyed) {target : Option String}
    (ha : a ∈ s.accounts) :
    s.duplicate target a = false ↔ s.LatestOfIdentity target a := by
  unfold LatestOfIdentity
  rw [duplicate_eq]
  cases hoauth : s.isOauth a.id with
  | false => simp
  | true =>
      have hnd : (s.oauthAccounts.map (·.id)).Nodup :=
        hkeyed.sublist (List.filter_sublist.map _)
      rw [Bool.true_and, Latest.superseded_eq_false_iff hnd
        (fun _ _ => UpstreamAccount.NotAfter.id_eq) (mem_oauthAccounts.2 ⟨ha, hoauth⟩)]
      exact ⟨fun h _ => h, fun h => h rfl⟩

structure Untouched (s s' : OAuthStore) (a : UpstreamAccount) : Prop where
  account : a ∈ s'.accounts
  credential : s'.credentials a.id = s.credentials a.id
  profile : s'.sessionProfiles a.id = s.sessionProfiles a.id

variable {p : UpstreamAccount → Bool}

theorem mem_doomed_iff (hkeyed : s.WellKeyed)
    (ha : a ∈ s.accounts) : a.id ∈ (s.accounts.filter p).map (·.id) ↔ p a = true := by
  rw [List.mem_map]
  constructor
  · rintro ⟨b, hb, hid⟩
    rw [List.mem_filter] at hb
    rw [← List.inj_on_of_nodup_map hkeyed hb.1 ha hid]
    exact hb.2
  · intro hp
    exact ⟨a, List.mem_filter.2 ⟨ha, hp⟩, rfl⟩

theorem mem_removeAccounts (hkeyed : s.WellKeyed)
    : a ∈ (s.removeAccounts p).accounts ↔ a ∈ s.accounts ∧ p a = false := by
  unfold removeAccounts
  rw [List.mem_filter]
  refine and_congr_right fun ha => ?_
  simp only [decide_eq_true_eq, mem_doomed_iff hkeyed ha, Bool.not_eq_true]

theorem credentials_removeAccounts (hkeyed : s.WellKeyed) (ha : a ∈ s.accounts) (hp : p a = false) :
    (s.removeAccounts p).credentials a.id = s.credentials a.id ∧
      (s.removeAccounts p).sessionProfiles a.id = s.sessionProfiles a.id := by
  have hnot : a.id ∉ (s.accounts.filter p).map (·.id) := by
    rw [mem_doomed_iff hkeyed ha, hp]
    exact Bool.false_ne_true
  exact ⟨if_neg hnot, if_neg hnot⟩

/-! ## Storing and deleting -/

/-- The account, credential and profile are stored, and all else is left. -/
structure Stored (s : OAuthStore) (r : UpstreamAccount) (credential : OAuthCredentialRecord)
    (profile : SessionProfileRecord) (s' : OAuthStore) : Prop where
  accounts : ∀ a, a ∈ s'.accounts ↔ a = r ∨ a ∈ s.accounts ∧ a.id ≠ r.id
  keyed : s'.WellKeyed
  providers : s'.providers = Function.update s.providers r.id (some .oauthRefreshToken)
  credentials : s'.credentials = Function.update s.credentials r.id (some credential)
  profiles : s'.sessionProfiles = Function.update s.sessionProfiles r.id (some profile)

def storedIdentityKey (r : UpstreamAccount) (profile : SessionProfileRecord) : Option String :=
  identityKeyOf profile.profile.chatgptAccountUserId profile.profile.chatgptUserId
    r.chatgptAccountId

section Stored

variable {r : UpstreamAccount} {credential : OAuthCredentialRecord}
  {profile : SessionProfileRecord} {s' : OAuthStore}

theorem Stored.identityKey_self (h : Stored s r credential profile s') :
    s'.identityKey r = storedIdentityKey r profile := by
  unfold identityKey
  rw [h.profiles, Function.update_self]
  rfl

variable {a : UpstreamAccount}

theorem Stored.identityKey_of_ne (h : Stored s r credential profile s')
    (ha : a.id ≠ r.id) : s'.identityKey a = s.identityKey a := by
  unfold identityKey
  rw [h.profiles, Function.update_of_ne ha]

theorem Stored.isOauth_of_ne (h : Stored s r credential profile s')
    (ha : a.id ≠ r.id) : s'.isOauth a.id = s.isOauth a.id := by
  unfold isOauth
  rw [h.providers, Function.update_of_ne ha]

theorem Stored.mem_oauthAccounts_iff (h : Stored s r credential profile s')
    :
    a ∈ s'.oauthAccounts ↔ a = r ∨ a ∈ s.oauthAccounts ∧ a.id ≠ r.id := by
  rw [mem_oauthAccounts, mem_oauthAccounts, h.accounts]
  constructor
  · rintro ⟨rfl | ⟨ha, hne⟩, hoauth⟩
    · exact .inl rfl
    · rw [h.isOauth_of_ne hne] at hoauth
      exact .inr ⟨⟨ha, hoauth⟩, hne⟩
  · rintro (rfl | ⟨⟨ha, hoauth⟩, hne⟩)
    · refine ⟨.inl rfl, ?_⟩
      unfold isOauth
      rw [h.providers, Function.update_self]
      rfl
    · rw [← h.isOauth_of_ne hne] at hoauth
      exact ⟨.inr ⟨ha, hne⟩, hoauth⟩

/-- The account as it is stored, and all others, are the latest of their identities: of the
one that is looked at, or of all. -/
structure NoneSuperseded (s : OAuthStore) (target : Option String) (own : UpstreamAccount → Prop)
    (r : UpstreamAccount) (key : Option String) : Prop where
  stored : ∀ k, key = some k → target.all (· = k) = true →
    ∀ b ∈ s.oauthAccounts, b.id ≠ r.id → s.identityKey b = some k → b.NotAfter r
  others : ∀ a ∈ s.oauthAccounts, ¬ own a → ∀ k, s.identityKey a = some k →
    target.all (· = k) = true →
      (∀ b ∈ s.oauthAccounts, b.id ≠ r.id → s.identityKey b = some k → b.NotAfter a) ∧
        (key = some k → r.NotAfter a)

theorem Stored.latestOfIdentity_self_iff (h : Stored s r credential profile s')
    {target : Option String} :
    s'.LatestOfIdentity target r ↔ ∀ k, storedIdentityKey r profile = some k →
      target.all (· = k) = true →
        ∀ b ∈ s.oauthAccounts, b.id ≠ r.id → s.identityKey b = some k → b.NotAfter r := by
  have hr : r ∈ s'.oauthAccounts := h.mem_oauthAccounts_iff.2 (.inl rfl)
  unfold LatestOfIdentity
  rw [h.identityKey_self]
  constructor
  · intro hlatest k hk htarget b hb hne hkey
    refine hlatest (mem_oauthAccounts.1 hr).2 k hk htarget b
      (h.mem_oauthAccounts_iff.2 (.inr ⟨hb, hne⟩)) ?_
    rwa [h.identityKey_of_ne hne]
  · intro hlatest _ k hk htarget b hb hkey
    obtain rfl | ⟨hb, hne⟩ := h.mem_oauthAccounts_iff.1 hb
    · exact (Std.Total.total b b).elim id id
    · rw [h.identityKey_of_ne hne] at hkey
      exact hlatest k hk htarget b hb hne hkey

theorem Stored.latestOfIdentity_of_ne_iff (h : Stored s r credential profile s')
    {target : Option String} (hne : a.id ≠ r.id) :
    s'.LatestOfIdentity target a ↔ (s.isOauth a.id = true → ∀ k, s.identityKey a = some k →
      target.all (· = k) = true →
        (∀ b ∈ s.oauthAccounts, b.id ≠ r.id → s.identityKey b = some k → b.NotAfter a) ∧
          (storedIdentityKey r profile = some k → r.NotAfter a)) := by
  unfold LatestOfIdentity
  rw [h.isOauth_of_ne hne, h.identityKey_of_ne hne]
  refine forall_congr' fun _ => forall_congr' fun k => forall_congr' fun _ =>
    forall_congr' fun _ => ?_
  constructor
  · intro hlatest
    constructor
    · intro b hb hbne hkey
      refine hlatest b (h.mem_oauthAccounts_iff.2 (.inr ⟨hb, hbne⟩)) ?_
      rwa [h.identityKey_of_ne hbne]
    · intro hkey
      refine hlatest r (h.mem_oauthAccounts_iff.2 (.inl rfl)) ?_
      rwa [h.identityKey_self]
  · rintro ⟨hothers, hr⟩ b hb hkey
    obtain rfl | ⟨hb, hbne⟩ := h.mem_oauthAccounts_iff.1 hb
    · rw [h.identityKey_self] at hkey
      exact hr hkey
    · rw [h.identityKey_of_ne hbne] at hkey
      exact hothers b hb hbne hkey

theorem Stored.credential_of_mem (h : Stored s r credential profile s') {p : UpstreamAccount → Bool}
    (hr : r ∈ (s'.removeAccounts p).accounts) :
    (s'.removeAccounts p).credentials r.id = some credential := by
  obtain ⟨hmem, hp⟩ := (mem_removeAccounts h.keyed).1 hr
  rw [(credentials_removeAccounts h.keyed hmem hp).1, h.credentials, Function.update_self]

/-- What is stored and then reduced to the latest accounts leaves all other accounts and has
the account that is stored if and only if none of these has a later one of its identity. -/
theorem Stored.removeDuplicates_iff (h : Stored s r credential profile s')
    {own : UpstreamAccount → Prop} (hown : ∀ a ∈ s.accounts, a.id = r.id → own a)
    (target : Option String) :
    ((∀ a ∈ s.accounts, ¬ own a → Untouched s (s'.removeAccounts (s'.duplicate target)) a) ∧
        r ∈ (s'.removeAccounts (s'.duplicate target)).accounts) ↔
      NoneSuperseded s target own r (storedIdentityKey r profile) := by
  have hr : r ∈ s'.accounts := (h.accounts r).2 (.inl rfl)
  constructor
  · rintro ⟨huntouched, hkept⟩
    constructor
    · rw [← h.latestOfIdentity_self_iff, ← duplicate_eq_false_iff h.keyed hr]
      exact ((mem_removeAccounts h.keyed).1 hkept).2
    · intro a ha hnot
      rw [mem_oauthAccounts] at ha
      have hne : a.id ≠ r.id := fun hid => hnot (hown a ha.1 hid)
      have hmem := (mem_removeAccounts h.keyed).1 (huntouched a ha.1 hnot).account
      rw [duplicate_eq_false_iff h.keyed hmem.1, h.latestOfIdentity_of_ne_iff hne] at hmem
      exact hmem.2 ha.2
  · intro hlatest
    constructor
    · intro a ha hnot
      have hne : a.id ≠ r.id := fun hid => hnot (hown a ha hid)
      have hmem : a ∈ s'.accounts := (h.accounts a).2 (.inr ⟨ha, hne⟩)
      have hdup : s'.duplicate target a = false := by
        rw [duplicate_eq_false_iff h.keyed hmem, h.latestOfIdentity_of_ne_iff hne]
        exact fun hoauth => hlatest.others a (mem_oauthAccounts.2 ⟨ha, hoauth⟩) hnot
      obtain ⟨hcredential, hprofile⟩ := credentials_removeAccounts h.keyed hmem hdup
      refine ⟨(mem_removeAccounts h.keyed).2 ⟨hmem, hdup⟩, ?_, ?_⟩
      · rw [hcredential, h.credentials, Function.update_of_ne hne]
      · rw [hprofile, h.profiles, Function.update_of_ne hne]
    · have hdup : s'.duplicate target r = false := by
        rw [duplicate_eq_false_iff h.keyed hr, h.latestOfIdentity_self_iff]
        exact hlatest.stored
      exact (mem_removeAccounts h.keyed).2 ⟨hr, hdup⟩

end Stored

theorem mem_updateAccount (hkeyed : s.WellKeyed) {f : UpstreamAccount → UpstreamAccount}
    {b : UpstreamAccount} (ha : a ∈ s.accounts) :
    b ∈ (s.updateAccount a.id f).accounts ↔ b = f a ∨ b ∈ s.accounts ∧ b.id ≠ a.id := by
  unfold updateAccount
  rw [List.mem_map]
  constructor
  · rintro ⟨c, hc, rfl⟩
    split_ifs with hid
    · rw [List.inj_on_of_nodup_map hkeyed hc ha hid]
      exact .inl rfl
    · exact .inr ⟨hc, hid⟩
  · rintro (rfl | ⟨hb, hid⟩)
    · exact ⟨a, ha, if_pos rfl⟩
    · exact ⟨b, hb, if_neg hid⟩

theorem WellKeyed.updateAccount (hkeyed : s.WellKeyed) {f : UpstreamAccount → UpstreamAccount}
    (hf : ∀ a, (f a).id = a.id) (accountId : Uuid) : (s.updateAccount accountId f).WellKeyed := by
  have hids : (s.updateAccount accountId f).accounts.map (·.id) = s.accounts.map (·.id) := by
    unfold OAuthStore.updateAccount
    rw [List.map_map]
    refine List.map_congr_left fun a _ => ?_
    simp only [Function.comp_apply]
    split_ifs
    · exact hf a
    · rfl
  unfold WellKeyed
  rw [hids]
  exact hkeyed

theorem stored_of_updateAccount (hkeyed : s.WellKeyed) (f : UpstreamAccount → UpstreamAccount)
    (hf : ∀ a, (f a).id = a.id) {a : UpstreamAccount} (ha : a ∈ s.accounts)
    (credential : OAuthCredentialRecord) (profile : SessionProfileRecord) :
    Stored s (f a) credential profile ((((s.updateAccount a.id f).setProvider a.id
      .oauthRefreshToken).upsertOauthCredential a.id credential).upsertSessionProfile a.id
        profile) where
  accounts b := by
    rw [hf]
    exact mem_updateAccount hkeyed ha
  keyed := hkeyed.updateAccount hf a.id
  providers := by
    rw [hf]
    rfl
  credentials := by
    rw [hf]
    rfl
  profiles := by
    rw [hf]
    rfl

theorem stored_of_insertAccount (hkeyed : s.WellKeyed) (a : UpstreamAccount)
    (credential : OAuthCredentialRecord) (profile : SessionProfileRecord) :
    Stored s a credential profile ((((s.insertAccount a).setProvider a.id
      .oauthRefreshToken).upsertOauthCredential a.id credential).upsertSessionProfile a.id
        profile) where
  accounts _ := Keyed.mem_upsertBy hkeyed
  keyed := Keyed.nodup_upsertBy hkeyed a
  providers := rfl
  credentials := rfl
  profiles := rfl

/-! ## The account that an import is stored for -/

def carries (s : OAuthStore) (refreshTokenSha256 : String) (a : UpstreamAccount) : Prop :=
  ∃ credential, s.credentials a.id = some credential ∧
    credential.refreshTokenSha256 = refreshTokenSha256

section Upsert

variable (cfg s) (call : UpsertCall) (info : OAuthTokenInfo) (draw : UpsertDraw)

/-- The account carries the token that was imported or the one that it was exchanged for, or
has the identity that was answered. -/
def OwnOfUpsert (a : UpstreamAccount) : Prop :=
  s.carries (cfg.refreshTokenSha256 call.req.refreshToken) a ∨
    s.carries (cfg.refreshTokenSha256 info.refreshToken) a ∨
      s.hasIdentity info.profile.chatgptAccountUserId info.profile.chatgptUserId
        (call.req.chatgptAccountId.or info.chatgptAccountId) a = true

def matchedAccount : Option UpstreamAccount :=
  (s.matchedAccountId cfg call info).bind s.account?

/-- The account, as it is stored. -/
def accountOfUpsert : UpstreamAccount :=
  ((s.matchedAccount cfg call info).map (updatedAccount call info)).getD
    (importedAccount call info draw)

def profileOfUpsert : SessionProfileRecord :=
  match s.matchedAccount cfg call info with
  | some account =>
    ((s.sessionProfiles account.id).getD
      (.fromOauthTokenInfo info .refreshRotatable none none)).mergeOauthTokenInfo info
        .refreshRotatable call.req.chatgptPlanType call.req.sourceType
  | none => .fromOauthTokenInfo info .refreshRotatable call.req.chatgptPlanType call.req.sourceType

def credentialOfUpsert : Result OAuthCredentialRecord :=
  match s.matchedAccount cfg call info with
  | some account => updatedCredential cfg call info draw (s.credentials account.id)
  | none => importedCredential cfg call info draw

variable {cfg s call info draw}

theorem account?_eq_some_iff (hkeyed : s.WellKeyed) {accountId : Uuid} {a : UpstreamAccount} :
    s.account? accountId = some a ↔ a ∈ s.accounts ∧ a.id = accountId :=
  Keyed.lookupBy_eq_some_iff hkeyed

theorem ownOfUpsert_of_matchedAccountId {accountId : Uuid}
    (h : s.matchedAccountId cfg call info = some accountId) :
    ∃ a ∈ s.accounts, a.id = accountId ∧ s.OwnOfUpsert cfg call info a := by
  unfold matchedAccountId canonicalOauthAccountIdByIdentity at h
  rw [Option.or_eq_some_iff, Option.map_eq_some_iff] at h
  obtain ⟨a, ha, rfl⟩ | ⟨-, h⟩ := h
  · refine ⟨a, (mem_oauthAccounts.1 (List.mem_of_find?_eq_some ha)).1, rfl, .inr (.inl ?_)⟩
    have hcarries := List.find?_some ha
    simpa [Option.any_eq_true, carries] using hcarries
  · rw [Option.map_eq_some_iff] at h
    obtain ⟨a, ha, rfl⟩ := h
    have hmem := Latest.mem_of_latest ha
    rw [List.mem_filter] at hmem
    exact ⟨a, (mem_oauthAccounts.1 hmem.1).1, rfl, .inr (.inr hmem.2)⟩

theorem ownOfUpsert_of_matchedAccount (hkeyed : s.WellKeyed) {a : UpstreamAccount}
    (h : s.matchedAccount cfg call info = some a) :
    a ∈ s.accounts ∧ s.OwnOfUpsert cfg call info a := by
  obtain ⟨accountId, hid, ha⟩ := Option.bind_eq_some_iff.1 h
  obtain ⟨b, hb, hbid, hown⟩ := ownOfUpsert_of_matchedAccountId hid
  obtain ⟨hmem, haid⟩ := (account?_eq_some_iff hkeyed).1 ha
  obtain rfl := List.inj_on_of_nodup_map hkeyed hb hmem (hbid.trans haid.symm)
  exact ⟨hb, hown⟩

theorem ownOfUpsert_of_id_eq (hkeyed : s.WellKeyed)
    (hfresh : ∀ a ∈ s.accounts, a.id ≠ draw.accountId) {a : UpstreamAccount} (ha : a ∈ s.accounts)
    (hid : a.id = (s.accountOfUpsert cfg call info draw).id) : s.OwnOfUpsert cfg call info a := by
  unfold accountOfUpsert at hid
  cases hmatched : s.matchedAccount cfg call info with
  | none =>
      rw [hmatched] at hid
      exact absurd hid (hfresh a ha)
  | some b =>
      rw [hmatched] at hid
      obtain ⟨hb, hown⟩ := ownOfUpsert_of_matchedAccount hkeyed hmatched
      obtain rfl := List.inj_on_of_nodup_map hkeyed ha hb hid
      exact hown

theorem storeTokens_eq (hkeyed : s.WellKeyed) :
    s.storeTokens cfg call info draw = match s.matchedAccount cfg call info with
      | some account => s.updateMatched cfg call info draw account
      | none => s.importOauthRefreshTokenWithTokenInfoInner cfg call info draw := by
  unfold storeTokens matchedAccount
  cases hid : s.matchedAccountId cfg call info with
  | none => rfl
  | some accountId =>
      obtain ⟨a, ha, haid, -⟩ := ownOfUpsert_of_matchedAccountId hid
      rw [Option.bind_some]
      dsimp only
      rw [(account?_eq_some_iff hkeyed).2 ⟨ha, haid⟩]

variable {credential : OAuthCredentialRecord}

theorem storeTokens_of_ok (hkeyed : s.WellKeyed)
    (hcredential : s.credentialOfUpsert cfg call info draw = .ok credential) :
    ∃ created s', s.storeTokens cfg call info draw =
        (.ok ⟨s.accountOfUpsert cfg call info draw, created⟩, s') ∧
      Stored s (s.accountOfUpsert cfg call info draw) credential
        (s.profileOfUpsert cfg call info) s' := by
  rw [storeTokens_eq hkeyed]
  unfold credentialOfUpsert at hcredential
  unfold accountOfUpsert profileOfUpsert
  cases hmatched : s.matchedAccount cfg call info with
  | none =>
      rw [hmatched] at hcredential
      dsimp only at hcredential
      refine ⟨true, _, ?_, stored_of_insertAccount hkeyed _ credential _⟩
      simp only [importOauthRefreshTokenWithTokenInfoInner, hcredential, Option.map_none,
        Option.getD_none]
  | some a =>
      rw [hmatched] at hcredential
      dsimp only at hcredential
      refine ⟨false, _, ?_, stored_of_updateAccount hkeyed (updatedAccount call info)
        (fun _ => rfl) (ownOfUpsert_of_matchedAccount hkeyed hmatched).1 credential _⟩
      simp only [updateMatched, hcredential, Option.map_some, Option.getD_some]

/-- Where the tokens cannot be encrypted, only the account that they belong to is changed. -/
theorem storeTokens_of_error (hkeyed : s.WellKeyed) {e : String}
    (hcredential : s.credentialOfUpsert cfg call info draw = .error e) :
    ∃ s', s.storeTokens cfg call info draw = (.error e, s') ∧
      ∀ a ∈ s.accounts, ¬ s.OwnOfUpsert cfg call info a → Untouched s s' a := by
  rw [storeTokens_eq hkeyed]
  unfold credentialOfUpsert at hcredential
  cases hmatched : s.matchedAccount cfg call info with
  | none =>
      rw [hmatched] at hcredential
      dsimp only at hcredential
      refine ⟨s, ?_, fun a ha _ => ⟨ha, rfl, rfl⟩⟩
      simp only [importOauthRefreshTokenWithTokenInfoInner, hcredential]
  | some b =>
      rw [hmatched] at hcredential
      dsimp only at hcredential
      obtain ⟨hb, hown⟩ := ownOfUpsert_of_matchedAccount hkeyed hmatched
      refine ⟨s.updateAccount b.id (updatedAccount call info), ?_, fun a ha hnot => ?_⟩
      · simp only [updateMatched, hcredential]
      · refine ⟨(mem_updateAccount hkeyed hb).2 (.inr ⟨ha, fun hid => hnot ?_⟩), rfl, rfl⟩
        rw [List.inj_on_of_nodup_map hkeyed ha hb hid]
        exact hown

structure HoldsTokens (cfg : OAuthConfig) (info : OAuthTokenInfo)
    (credential : OAuthCredentialRecord) : Prop where
  refreshTokenSha256 : credential.refreshTokenSha256 = cfg.refreshTokenSha256 info.refreshToken
  encrypted : ∃ cipher, cfg.credentialCipher = some cipher ∧
    cipher.encrypt info.accessToken = .ok credential.accessTokenEnc ∧
      cipher.encrypt info.refreshToken = .ok credential.refreshTokenEnc

theorem importedCredential_holds (h : importedCredential cfg call info draw = .ok credential) :
    HoldsTokens cfg info credential := by
  unfold importedCredential at h
  simp only [Result.bind_eq_ok] at h
  obtain ⟨cipher, hcipher, base, hbase, hfallback⟩ := h
  obtain ⟨haccess, hrefresh, hsha⟩ := OAuthCredentialRecord.fromTokenInfo_eq_ok hbase
  obtain ⟨enc, expires, rfl⟩ := OAuthCredentialRecord.setFallbackAccessToken_eq_ok hfallback
  exact ⟨hsha, cipher, OAuthConfig.requireCredentialCipher_eq_ok.1 hcipher, haccess, hrefresh⟩

theorem updatedCredential_holds {existing : Option OAuthCredentialRecord}
    (h : updatedCredential cfg call info draw existing = .ok credential) :
    HoldsTokens cfg info credential := by
  unfold updatedCredential at h
  simp only [Result.bind_eq_ok] at h
  obtain ⟨cipher, hcipher, base, hbase, h⟩ := h
  obtain ⟨haccess, hrefresh, hsha⟩ := OAuthCredentialRecord.fromTokenInfo_eq_ok hbase
  have hcipher := OAuthConfig.requireCredentialCipher_eq_ok.1 hcipher
  split_ifs at h with hfallback
  · obtain ⟨enc, expires, rfl⟩ := OAuthCredentialRecord.setFallbackAccessToken_eq_ok h
    cases existing <;> exact ⟨hsha, cipher, hcipher, haccess, hrefresh⟩
  · obtain rfl := Except.ok.inj h
    cases existing <;> exact ⟨hsha, cipher, hcipher, haccess, hrefresh⟩

theorem credentialOfUpsert_holds (h : s.credentialOfUpsert cfg call info draw = .ok credential) :
    HoldsTokens cfg info credential := by
  unfold credentialOfUpsert at h
  cases hmatched : s.matchedAccount cfg call info with
  | none =>
      rw [hmatched] at h
      exact importedCredential_holds h
  | some account =>
      rw [hmatched] at h
      exact updatedCredential_holds h

/-- The tokens that are answered, and the fallback token of the request, can be encrypted. -/
def Encryptable (cfg : OAuthConfig) (call : UpsertCall) (info : OAuthTokenInfo) : Prop :=
  ∃ cipher, cfg.credentialCipher = some cipher ∧
    (∃ enc, cipher.encrypt info.accessToken = .ok enc) ∧
      (∃ enc, cipher.encrypt info.refreshToken = .ok enc) ∧
        ∀ token, Text.trimmed? call.req.fallbackAccessToken = some token →
          ∃ enc, cipher.encrypt token = .ok enc

theorem encrypt_of_setFallbackAccessToken {cipher : CredentialCipher}
    {credential' : OAuthCredentialRecord} {fallback : Option String} {expiresAt : Option DateTime}
    (h : credential.setFallbackAccessToken cipher fallback expiresAt = .ok credential')
    (token : String) (htoken : Text.trimmed? fallback = some token) :
    ∃ enc, cipher.encrypt token = .ok enc := by
  simp only [OAuthCredentialRecord.setFallbackAccessToken, htoken, Result.bind_eq_ok] at h
  obtain ⟨enc, henc, -⟩ := h
  exact ⟨enc, henc⟩

variable (s draw) in
theorem encryptable_iff :
    Encryptable cfg call info ↔
      ∃ credential, s.credentialOfUpsert cfg call info draw = .ok credential := by
  unfold Encryptable credentialOfUpsert
  constructor
  · rintro ⟨cipher, hcipher, ⟨accessEnc, haccess⟩, ⟨refreshEnc, hrefresh⟩, hfallback⟩
    have hrequire := OAuthConfig.requireCredentialCipher_eq_ok.2 hcipher
    have hset (credential : OAuthCredentialRecord) : ∃ credential',
        credential.setFallbackAccessToken cipher call.req.fallbackAccessToken
          call.req.fallbackTokenExpiresAt = .ok credential' := by
      unfold OAuthCredentialRecord.setFallbackAccessToken
      split
      · exact ⟨_, rfl⟩
      · obtain ⟨enc, henc⟩ := hfallback _ ‹_›
        rw [henc]
        exact ⟨_, rfl⟩
    cases s.matchedAccount cfg call info with
    | none =>
        obtain ⟨credential, hok⟩ := hset _
        refine ⟨credential, ?_⟩
        simp only [importedCredential, OAuthCredentialRecord.fromTokenInfo, hrequire, haccess,
          hrefresh, bind, Except.bind, pure, Except.pure]
        exact hok
    | some account =>
        simp only [updatedCredential, OAuthCredentialRecord.fromTokenInfo, hrequire, haccess,
          hrefresh, bind, Except.bind, pure, Except.pure]
        split_ifs
        · exact hset _
        · exact ⟨_, rfl⟩
  · rintro ⟨credential, h⟩
    obtain ⟨-, cipher, hcipher, haccess, hrefresh⟩ := credentialOfUpsert_holds h
    refine ⟨cipher, hcipher, ⟨_, haccess⟩, ⟨_, hrefresh⟩, fun token htoken => ?_⟩
    have hrequire := OAuthConfig.requireCredentialCipher_eq_ok.2 hcipher
    cases hmatched : s.matchedAccount cfg call info with
    | none =>
        simp only [hmatched, importedCredential, hrequire, Result.bind_eq_ok,
          Except.ok.injEq, exists_eq_left'] at h
        obtain ⟨base, -, hset⟩ := h
        exact encrypt_of_setFallbackAccessToken hset token htoken
    | some account =>
        simp only [hmatched, updatedCredential, hrequire, Result.bind_eq_ok,
          Except.ok.injEq, exists_eq_left', htoken, Option.isSome_some, if_true] at h
        obtain ⟨base, -, hset⟩ := h
        exact encrypt_of_setFallbackAccessToken hset token htoken

/-- What one import may do: accounts that are not its own are left as they are, and the account
that it returns is there and holds the tokens that were answered. -/
def UpsertIsolated (cfg : OAuthConfig) (s : OAuthStore) (call : UpsertCall) (answer : RefreshAnswer)
    (draw : UpsertDraw) : Prop :=
  (∀ a ∈ s.accounts, (∀ info, answer = .ok info → ¬ s.OwnOfUpsert cfg call info a) →
      Untouched s (s.finishUpsert cfg call answer draw).2 a) ∧
    ∀ info, answer = .ok info → ∀ result, (s.finishUpsert cfg call answer draw).1 = .ok result →
      result.account ∈ (s.finishUpsert cfg call answer draw).2.accounts ∧
        ∃ credential, (s.finishUpsert cfg call answer draw).2.credentials result.account.id =
          some credential ∧ HoldsTokens cfg info credential

/-- No account that must stay is superseded by the cleanup that follows an import. -/
def UpsertKeeps (cfg : OAuthConfig) (s : OAuthStore) (call : UpsertCall) (answer : RefreshAnswer)
    (draw : UpsertDraw) : Prop :=
  ∀ info, answer = .ok info → Encryptable cfg call info →
    NoneSuperseded s
      (identityKeyOf info.profile.chatgptAccountUserId info.profile.chatgptUserId
        (call.req.chatgptAccountId.or info.chatgptAccountId))
      (s.OwnOfUpsert cfg call info) (s.accountOfUpsert cfg call info draw)
      (storedIdentityKey (s.accountOfUpsert cfg call info draw) (s.profileOfUpsert cfg call info))

theorem upsertIsolated_iff (hkeyed : s.WellKeyed)
    (hfresh : ∀ a ∈ s.accounts, a.id ≠ draw.accountId) (answer : RefreshAnswer) :
    UpsertIsolated cfg s call answer draw ↔ UpsertKeeps cfg s call answer draw := by
  unfold UpsertIsolated UpsertKeeps
  cases answer with
  | error err =>
      refine iff_of_true ⟨fun a ha _ => ⟨ha, rfl, rfl⟩, ?_⟩ ?_
      · rintro _ ⟨⟩
      · rintro _ ⟨⟩
  | ok info =>
      simp only [Except.ok.injEq, forall_eq', encryptable_iff s draw]
      cases hcredential : s.credentialOfUpsert cfg call info draw with
      | error e =>
          obtain ⟨s', hstore, huntouched⟩ := storeTokens_of_error hkeyed hcredential
          simp only [finishUpsert, hstore]
          refine iff_of_true ⟨huntouched, ?_⟩ ?_
          · rintro _ ⟨⟩
          · rintro ⟨_, ⟨⟩⟩
      | ok credential =>
          obtain ⟨created, s', hstore, hstored⟩ := storeTokens_of_ok hkeyed hcredential
          have hholds := credentialOfUpsert_holds hcredential
          have hiff := hstored.removeDuplicates_iff
            (fun a ha hid => ownOfUpsert_of_id_eq hkeyed hfresh ha hid)
            (identityKeyOf info.profile.chatgptAccountUserId info.profile.chatgptUserId
              (call.req.chatgptAccountId.or info.chatgptAccountId))
          simp only [finishUpsert, hstore, Except.ok.injEq, forall_eq', exists_eq', forall_const]
          rw [← hiff]
          refine and_congr_right fun _ => ⟨fun h => h.1, fun h => ⟨h, credential, ?_, hholds⟩⟩
          exact hstored.credential_of_mem h

end Upsert

/-! ## Records that are ready -/

section Ready

variable {record : OAuthRefreshTokenVaultRecord} {newId : Uuid} {now : DateTime}

theorem matchedOauthAccountIdForVaultRecord_eq_some {a : UpstreamAccount}
    (h : s.matchedOauthAccountIdForVaultRecord record = some a) :
    a ∈ s.oauthAccounts ∧ (s.carries record.refreshTokenSha256 a ∨
      (∀ b ∈ s.oauthAccounts, ¬ s.carries record.refreshTokenSha256 b) ∧
        ∃ target, Text.trimmed? record.chatgptAccountId = some target ∧
          a.chatgptAccountId.map Text.trim = some target) := by
  unfold matchedOauthAccountIdForVaultRecord at h
  rw [Option.or_eq_some_iff, Option.bind_eq_some_iff] at h
  obtain h | ⟨hnone, target, htarget, h⟩ := h
  · have hmem := Latest.mem_of_latest h
    rw [List.mem_filter] at hmem
    exact ⟨hmem.1, .inl (by simpa [Option.any_eq_true, carries] using hmem.2)⟩
  · have hmem := Latest.mem_of_latest h
    rw [List.mem_filter] at hmem
    refine ⟨hmem.1, .inr ⟨fun b hb hcarries => ?_, target, htarget, by simpa using hmem.2⟩⟩
    have hempty := Latest.latest_eq_none_iff.1 hnone
    have hb' := List.filter_eq_nil_iff.1 hempty b hb
    exact hb' (by simpa [Option.any_eq_true, carries] using hcarries)

theorem matchedOauthAccountIdForVaultRecord_eq_none
    (h : s.matchedOauthAccountIdForVaultRecord record = none) {target : String}
    (htarget : Text.trimmed? record.chatgptAccountId = some target) {a : UpstreamAccount}
    (ha : a ∈ s.oauthAccounts) : a.chatgptAccountId.map Text.trim ≠ some target := by
  unfold matchedOauthAccountIdForVaultRecord at h
  rw [Option.or_eq_none_iff, htarget, Option.bind_some] at h
  have hempty := Latest.latest_eq_none_iff.1 h.2
  have ha' := List.filter_eq_nil_iff.1 hempty a ha
  exact fun heq => ha' (by simpa using heq)

def readyAccountId (s : OAuthStore) (record : OAuthRefreshTokenVaultRecord) (newId : Uuid) : Uuid :=
  ((s.matchedOauthAccountIdForVaultRecord record).map (·.id)).getD newId

def readyVersion (s : OAuthStore) (record : OAuthRefreshTokenVaultRecord) : Nat :=
  (((s.matchedOauthAccountIdForVaultRecord record).bind fun a => s.credentials a.id).map
    (·.tokenVersion)).getD 0

theorem storeReady_stored (hkeyed : s.WellKeyed) (accessTokenEnc : String)
    (tokenExpiresAt : DateTime) :
    ∃ credential profile, credential.refreshTokenSha256 = record.refreshTokenSha256 ∧
      credential.refreshTokenEnc = record.refreshTokenEnc ∧
      credential.tokenVersion = s.readyVersion record ∧
      (s.storeReady record accessTokenEnc tokenExpiresAt newId now).1.id =
        s.readyAccountId record newId ∧
      Stored s (s.storeReady record accessTokenEnc tokenExpiresAt newId now).1 credential profile
        (s.storeReady record accessTokenEnc tokenExpiresAt newId now).2 := by
  unfold storeReady readyAccountId readyVersion
  cases hmatched : s.matchedOauthAccountIdForVaultRecord record with
  | none => exact ⟨_, _, rfl, rfl, rfl, rfl, stored_of_insertAccount hkeyed _ _ _⟩
  | some a =>
      have ha := (mem_oauthAccounts.1 (matchedOauthAccountIdForVaultRecord_eq_some hmatched).1).1
      exact ⟨_, _, rfl, rfl, rfl, rfl,
        stored_of_updateAccount hkeyed (readyAccount record) (fun _ => rfl) ha _ _⟩

/-- The access token of the record is there and will be valid for a while. -/
def Materializable (cfg : OAuthConfig) (record : OAuthRefreshTokenVaultRecord) (now : DateTime) :
    Prop :=
  ∃ accessTokenEnc tokenExpiresAt, record.fallbackAccessTokenEnc = some accessTokenEnc ∧
    readyTokenExpiresAt cfg record accessTokenEnc = .ok tokenExpiresAt ∧
      now + oauthMinValid < tokenExpiresAt

variable {r : UpstreamAccount × OAuthStore}

theorem materializeReady_eq_ok :
    s.materializeReadyOauthVaultRecordInner cfg record newId now = .ok r ↔
      ∃ accessTokenEnc tokenExpiresAt, record.fallbackAccessTokenEnc = some accessTokenEnc ∧
        readyTokenExpiresAt cfg record accessTokenEnc = .ok tokenExpiresAt ∧
          now + oauthMinValid < tokenExpiresAt ∧
            let stored := s.storeReady record accessTokenEnc tokenExpiresAt newId now
            r = (stored.1, (stored.2.recordAccountProbeResultInner stored.1.id
              (record.admissionCheckedAt.getD now) .ok).setAccountPoolStateActiveInner
                stored.1.id now) := by
  unfold materializeReadyOauthVaultRecordInner
  cases record.fallbackAccessTokenEnc with
  | none => simp
  | some accessTokenEnc =>
      simp only [Result.bind_eq_ok, Option.some.injEq, exists_and_left, exists_eq_left']
      refine exists_congr fun tokenExpiresAt => and_congr_right fun _ => ?_
      split_ifs with hexpired
      · simp [Int.not_lt.2 hexpired]
      · simp only [Int.not_le.1 hexpired, true_and, pure, Except.pure, Except.ok.injEq]
        exact eq_comm

theorem materializeReady_stored (hkeyed : s.WellKeyed)
    (h : s.materializeReadyOauthVaultRecordInner cfg record newId now = .ok r) :
    ∃ credential profile, credential.refreshTokenSha256 = record.refreshTokenSha256 ∧
      credential.refreshTokenEnc = record.refreshTokenEnc ∧
      credential.tokenVersion = s.readyVersion record ∧ r.1.id = s.readyAccountId record newId ∧
      Stored s r.1 credential profile r.2 := by
  obtain ⟨accessTokenEnc, tokenExpiresAt, -, -, -, rfl⟩ := materializeReady_eq_ok.1 h
  obtain ⟨credential, profile, hsha, henc, hversion, hid, hstored⟩ :=
    storeReady_stored hkeyed accessTokenEnc tokenExpiresAt
  exact ⟨credential, profile, hsha, henc, hversion, hid, hstored.accounts, hstored.keyed,
    hstored.providers, hstored.credentials, hstored.profiles⟩

theorem materializeReady_touches (hkeyed : s.WellKeyed)
    (h : s.materializeReadyOauthVaultRecordInner cfg record newId now = .ok r) :
    (∀ a ∈ s.accounts, a.id ≠ s.readyAccountId record newId → Untouched s r.2 a) ∧
      ∃ credential, r.2.credentials (s.readyAccountId record newId) = some credential ∧
        credential.refreshTokenSha256 = record.refreshTokenSha256 := by
  obtain ⟨credential, profile, hsha, -, -, hid, hstored⟩ := materializeReady_stored hkeyed h
  constructor
  · intro a ha hne
    rw [← hid] at hne
    refine ⟨(hstored.accounts a).2 (.inr ⟨ha, hne⟩), ?_, ?_⟩
    · exact (congrFun hstored.credentials a.id).trans (Function.update_of_ne hne _ _)
    · exact (congrFun hstored.profiles a.id).trans (Function.update_of_ne hne _ _)
  · refine ⟨credential, ?_, hsha⟩
    rw [← hid]
    exact (congrFun hstored.credentials _).trans (Function.update_self _ _ _)

def ReadyIsolated (cfg : OAuthConfig) (s : OAuthStore) (record : OAuthRefreshTokenVaultRecord)
    (newId : Uuid) (now : DateTime) : Prop :=
  ∀ r, s.materializeReadyOauthVaultRecordInner cfg record newId now = .ok r →
    ∀ a ∈ s.accounts, ¬ s.carries record.refreshTokenSha256 a → Untouched s r.2 a

def ReadyKeeps (cfg : OAuthConfig) (s : OAuthStore) (record : OAuthRefreshTokenVaultRecord)
    (now : DateTime) : Prop :=
  Materializable cfg record now →
    (∃ a ∈ s.oauthAccounts, s.carries record.refreshTokenSha256 a) ∨
      ∀ target, Text.trimmed? record.chatgptAccountId = some target →
        ∀ a ∈ s.oauthAccounts, a.chatgptAccountId.map Text.trim ≠ some target

theorem readyIsolated_iff (hkeyed : s.WellKeyed) (hfresh : ∀ a ∈ s.accounts, a.id ≠ newId) :
    ReadyIsolated cfg s record newId now ↔ ReadyKeeps cfg s record now := by
  constructor
  · rintro hisolated ⟨accessTokenEnc, tokenExpiresAt, htoken, hexpires, hvalid⟩
    obtain ⟨r, hok⟩ : ∃ r, s.materializeReadyOauthVaultRecordInner cfg record newId now = .ok r :=
      ⟨_, materializeReady_eq_ok.2 ⟨_, _, htoken, hexpires, hvalid, rfl⟩⟩
    obtain ⟨-, credential, hcredential, hsha⟩ := materializeReady_touches hkeyed hok
    unfold readyAccountId at hcredential
    cases hmatched : s.matchedOauthAccountIdForVaultRecord record with
    | none =>
        exact .inr fun target htarget a ha =>
          matchedOauthAccountIdForVaultRecord_eq_none hmatched htarget ha
    | some a =>
        obtain ⟨ha, hcarries | ⟨hnone, -⟩⟩ := matchedOauthAccountIdForVaultRecord_eq_some hmatched
        · exact .inl ⟨a, ha, hcarries⟩
        · have huntouched := hisolated _ hok a (mem_oauthAccounts.1 ha).1 (hnone a ha)
          rw [hmatched] at hcredential
          exact absurd ⟨credential, huntouched.credential.symm.trans hcredential, hsha⟩ (hnone a ha)
  · intro hkeeps r hr a ha hnot
    refine (materializeReady_touches hkeyed hr).1 a ha fun hid => ?_
    obtain ⟨accessTokenEnc, tokenExpiresAt, htoken, hexpires, hvalid, -⟩ :=
      materializeReady_eq_ok.1 hr
    unfold readyAccountId at hid
    cases hmatched : s.matchedOauthAccountIdForVaultRecord record with
    | none =>
        rw [hmatched] at hid
        exact hfresh a ha hid
    | some b =>
        rw [hmatched] at hid
        obtain ⟨hb, hcases⟩ := matchedOauthAccountIdForVaultRecord_eq_some hmatched
        obtain rfl := List.inj_on_of_nodup_map hkeyed ha (mem_oauthAccounts.1 hb).1 hid
        obtain hcarries | ⟨hnone, target, htarget, hwork⟩ := hcases
        · exact hnot hcarries
        · obtain ⟨c, hc, hcarries⟩ | hkeeps :=
            hkeeps ⟨_, _, htoken, hexpires, hvalid⟩
          · exact hnone c hc hcarries
          · exact hkeeps target htarget a hb hwork

end Ready

end OAuthStore

end CodexPool
