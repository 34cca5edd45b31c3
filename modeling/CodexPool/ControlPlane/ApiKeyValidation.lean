import CodexPool.ControlPlane.ApiKey
import Mathlib.Data.List.Nodup

/-!
# Which strings authenticate

A token is looked up under every hash that it may be stored under, and as it is. The last
lets a stored hash pass for a token; and the joins of the lookup leave out a key that has no
group. Where a run presents no stored hash, only plaintexts of keys that can be found, every
validation answers with the key that the string was issued for.
-/

namespace CodexPool

open ApiKeyTokenHasher

variable {crypto : ApiKeyCrypto}

/-! ## Hashes determine what they are made of -/

def KeptOf (crypto : ApiKeyCrypto) (value token : String) : Prop :=
  (∃ key, value = hashWithKey crypto key token) ∨
    value = legacySha256HashApiKeyToken crypto token ∨ value = token

def IsPlaintextKey (token : String) : Prop := ∃ secret, token = "cp_" ++ Bytes.hexEncode secret

variable {s t p value : String}

theorem asBytes_inj (h : asBytes s = asBytes t) : s = t := by
  apply String.toByteArray_inj.1
  exact ByteArray.ext (Array.toList_inj.1 h)

theorem append_cons_inj_of_notMem {α : Type*} {c : α} {xs ys us vs : List α}
    (hys : c ∉ ys) (hvs : c ∉ vs) (h : xs ++ c :: ys = us ++ c :: vs) : ys = vs := by
  obtain ⟨as, rfl, hsplit⟩ | ⟨as, rfl, hsplit⟩ := List.append_eq_append_iff.1 h
  · cases as with
    | nil => exact (List.cons.inj hsplit).2
    | cons a as => exact absurd (by rw [(List.cons.inj hsplit).2]; simp) hys
  · cases as with
    | nil => exact (List.cons.inj hsplit).2.symm
    | cons a as => exact absurd (by rw [(List.cons.inj hsplit).2]; simp) hvs

theorem colon_notMem_hexEncode (bs : Bytes) : ':' ∉ (Bytes.hexEncode bs).toList :=
  fun h => absurd (Bytes.mem_hexEncode h) (by decide)

theorem toList_hashWithKey (key : ApiKeyHmacKey) (token : String) :
    (hashWithKey crypto key token).toList =
      (apiKeyHmacAlgo ++ ":" ++ key.keyId).toList ++
        ':' :: (Bytes.hexEncode (crypto.hmacSha256 key.secret (asBytes token))).toList := by
  simp [hashWithKey]

theorem hashWithKey_inj (hcrypto : crypto.Injective) {key key' : ApiKeyHmacKey}
    (h : hashWithKey crypto key s = hashWithKey crypto key' t) : s = t := by
  have hlist := congrArg String.toList h
  rw [toList_hashWithKey, toList_hashWithKey] at hlist
  have hhex := append_cons_inj_of_notMem (colon_notMem_hexEncode _) (colon_notMem_hexEncode _) hlist
  have hdigest := Bytes.hexEncode_inj (String.toList_inj.1 hhex)
  exact asBytes_inj (hcrypto.hmac _ _ _ _ hdigest)

theorem legacySha256_inj (hcrypto : crypto.Injective)
    (h : legacySha256HashApiKeyToken crypto s = legacySha256HashApiKeyToken crypto t) : s = t :=
  asBytes_inj (hcrypto.sha _ _ (Bytes.hexEncode_inj h))

theorem hashWithKey_ne_legacySha256 (key : ApiKeyHmacKey) (s t : String) :
    hashWithKey crypto key s ≠ legacySha256HashApiKeyToken crypto t := by
  intro h
  apply colon_notMem_hexEncode (crypto.sha256 (asBytes t))
  rw [← legacySha256HashApiKeyToken, ← h, toList_hashWithKey]
  simp

theorem IsPlaintextKey.ne_hashWithKey (hp : IsPlaintextKey p) (key : ApiKeyHmacKey)
    (t : String) : p ≠ hashWithKey crypto key t := by
  obtain ⟨secret, rfl⟩ := hp
  intro h
  have hlist := congrArg (fun s => s.toList.head?) h
  simp [hashWithKey, apiKeyHmacAlgo] at hlist

theorem IsPlaintextKey.ne_legacySha256 (hp : IsPlaintextKey p) (t : String) :
    p ≠ legacySha256HashApiKeyToken crypto t := by
  obtain ⟨secret, rfl⟩ := hp
  intro h
  have hmem : '_' ∈ (legacySha256HashApiKeyToken crypto t).toList := by
    rw [← h]
    simp
  exact absurd (Bytes.mem_hexEncode hmem) (by decide)

theorem KeptOf.eq_or_eq (hcrypto : crypto.Injective)
    (hp : IsPlaintextKey p) (hkept : KeptOf crypto value p) (ht : KeptOf crypto value t) :
    t = p ∨ value = t := by
  rcases ht with ⟨key', ht⟩ | ht | ht
  · rcases hkept with ⟨key, hv⟩ | hv | hv
    · exact .inl (hashWithKey_inj hcrypto (ht.symm.trans hv))
    · exact absurd (ht.symm.trans hv) (hashWithKey_ne_legacySha256 _ _ _)
    · exact absurd (hv.symm.trans ht) (hp.ne_hashWithKey _ _)
  · rcases hkept with ⟨key, hv⟩ | hv | hv
    · exact absurd (hv.symm.trans ht) (hashWithKey_ne_legacySha256 _ _ _)
    · exact .inl (legacySha256_inj hcrypto (ht.symm.trans hv))
    · exact absurd (hv.symm.trans ht) (hp.ne_legacySha256 _)
  · exact .inr ht

theorem KeptOf.plaintext_eq (hcrypto : crypto.Injective) {p' : String}
    (hp : IsPlaintextKey p) (hp' : IsPlaintextKey p') (h : KeptOf crypto value p)
    (h' : KeptOf crypto value p') : p = p' := by
  obtain heq | heq := h.eq_or_eq hcrypto hp h'
  · exact heq.symm
  · obtain heq' | heq' := h'.eq_or_eq hcrypto hp' h
    · exact heq'
    · exact heq'.symm.trans heq

theorem keptOf_of_mem_candidates {hasher : ApiKeyTokenHasher} {token : String}
    (h : value ∈ hasher.candidates crypto token) : KeptOf crypto value token := by
  rcases (mem_candidates crypto).1 h with ⟨key, -, hvalue⟩ | hvalue
  · exact .inl ⟨key, hvalue⟩
  · exact .inr hvalue

namespace KeyDb

variable {db : KeyDb}

/-! ## What is kept -/

/-- Every stored value is kept of the plaintext of its key. -/
structure Kept (crypto : ApiKeyCrypto) (db : KeyDb) : Prop where
  tokens : ∀ row ∈ db.apiKeyTokens, ∃ p, (row.apiKeyId, p) ∈ db.issued ∧ KeptOf crypto row.token p
  plaintext : ∀ k p, (k, p) ∈ db.issued → IsPlaintextKey p
  key : ∀ k p p', (k, p) ∈ db.issued → (k, p') ∈ db.issued → p = p'
  owner : ∀ k k' p, (k, p) ∈ db.issued → (k', p) ∈ db.issued → k = k'
  stored : ∀ k p, (k, p) ∈ db.issued → k ∈ db.apiKeys.map (·.id)
  nodup : (db.apiKeyTokens.map (·.apiKeyId)).Nodup

/-- The row is found for the token. -/
def Matches (crypto : ApiKeyCrypto) (db : KeyDb) (token : String) (row : ApiKeyTokenRow) : Prop :=
  row ∈ db.apiKeyTokens ∧ row.token ∈ db.hasher.candidates crypto token ∧
    (db.joined row).isSome = true

variable {t : String} {row row' m : ApiKeyTokenRow}

theorem Kept.eq_or_token_eq (hcrypto : crypto.Injective) (hdb : db.Kept crypto)
    (h : db.Matches crypto t row) :
    (row.apiKeyId, t) ∈ db.issued ∨ row.token = t := by
  obtain ⟨p, hissued, hkept⟩ := hdb.tokens row h.1
  obtain rfl | heq :=
    hkept.eq_or_eq hcrypto (hdb.plaintext _ _ hissued) (keptOf_of_mem_candidates h.2.1)
  · exact .inl hissued
  · exact .inr heq

theorem Kept.row_eq (hdb : db.Kept crypto) (h : row ∈ db.apiKeyTokens) (h' : row' ∈ db.apiKeyTokens)
    (hid : row.apiKeyId = row'.apiKeyId) : row = row' :=
  List.inj_on_of_nodup_map hdb.nodup h h' hid

theorem Kept.matches_unique (hcrypto : crypto.Injective) (hdb : db.Kept crypto)
    (h : db.Matches crypto t row) (h' : db.Matches crypto t row') :
    row = row' := by
  obtain ⟨p, hissued, hkept⟩ := hdb.tokens row h.1
  obtain ⟨p', hissued', hkept'⟩ := hdb.tokens row' h'.1
  have hp := hdb.plaintext _ _ hissued
  have hp' := hdb.plaintext _ _ hissued'
  have heq : p = p' := by
    obtain heq | heq := hkept.eq_or_eq hcrypto hp (keptOf_of_mem_candidates h.2.1)
    · obtain heq' | heq' := hkept'.eq_or_eq hcrypto hp' (keptOf_of_mem_candidates h'.2.1)
      · exact heq.symm.trans heq'
      · exact KeptOf.plaintext_eq hcrypto hp hp' (.inr (.inr (heq'.trans heq))) hkept'
    · obtain heq' | heq' := hkept'.eq_or_eq hcrypto hp' (keptOf_of_mem_candidates h'.2.1)
      · exact KeptOf.plaintext_eq hcrypto hp hp' hkept (.inr (.inr (heq.trans heq')))
      · rw [heq] at hkept
        rw [heq'] at hkept'
        exact KeptOf.plaintext_eq hcrypto hp hp' hkept hkept'
  exact hdb.row_eq h.1 h'.1 (hdb.owner _ _ _ hissued (heq ▸ hissued'))

/-! ## The lookup -/

theorem key_of_joined {key : ApiKeyRow} {group : ApiKeyGroupRow}
    {tenant : TenantRow} (h : db.joined row = some (key, group, tenant)) :
    key.id = row.apiKeyId := by
  simp only [joined, Option.bind_eq_bind, Option.bind_eq_some_iff] at h
  obtain ⟨key', hkey, groupId, -, group', -, tenant', -, heq⟩ := h
  cases heq
  exact Keyed.key_of_lookupBy hkey

theorem selectByToken_eq_some {key : ApiKeyRow} {group : ApiKeyGroupRow} {tenant : TenantRow}
    (h : db.selectByToken crypto t = some (row, key, group, tenant)) :
    db.Matches crypto t row ∧ key.id = row.apiKeyId := by
  obtain ⟨row', hmem, hrow⟩ := List.exists_of_findSome?_eq_some h
  by_cases hcand : row'.token ∈ db.hasher.candidates crypto t
  · rw [if_pos hcand, Option.map_eq_some_iff] at hrow
    obtain ⟨join, hjoin, heq⟩ := hrow
    cases heq
    exact ⟨⟨hmem, hcand, by rw [hjoin]; rfl⟩, key_of_joined hjoin⟩
  · rw [if_neg hcand] at hrow
    cases hrow

theorem not_matches_of_selectByToken_eq_none
    (h : db.selectByToken crypto t = none) (row : ApiKeyTokenRow) :
    ¬ db.Matches crypto t row := by
  intro hrow
  have hnone := List.findSome?_eq_none_iff.1 h row hrow.1
  rw [if_pos hrow.2.1, Option.map_eq_none_iff] at hnone
  have hjoined := hrow.2.2
  rw [hnone] at hjoined
  cases hjoined

theorem authenticates_eq (db : KeyDb) (t : String) :
    db.authenticates crypto t = (db.selectByToken crypto t).map fun r => r.2.1.id := by
  unfold authenticates validateApiKey
  cases db.selectByToken crypto t with
  | none => rfl
  | some r => rfl

theorem Kept.authenticates_iff (hcrypto : crypto.Injective) (hdb : db.Kept crypto)
    {k : Uuid} : db.authenticates crypto t = some k ↔
      ∃ row, db.Matches crypto t row ∧ row.apiKeyId = k := by
  rw [authenticates_eq]
  cases hsel : db.selectByToken crypto t with
  | none =>
      constructor
      · intro h
        cases h
      · rintro ⟨row, hrow, -⟩
        exact absurd hrow (not_matches_of_selectByToken_eq_none hsel row)
  | some r =>
      obtain ⟨row, key, group, tenant⟩ := r
      obtain ⟨hrow, hid⟩ := selectByToken_eq_some hsel
      constructor
      · intro h
        exact ⟨row, hrow, hid.symm.trans (Option.some.inj h)⟩
      · rintro ⟨row', hrow', rfl⟩
        rw [hdb.matches_unique hcrypto hrow' hrow, ← hid]
        rfl

/-! ## Strings that are answered right -/

def StoredHash (db : KeyDb) (t : String) : Prop :=
  ∃ row ∈ db.apiKeyTokens, row.token = t ∧ (row.apiKeyId, t) ∉ db.issued

/-- The string is not the stored hash of a key that has a group; and if it was issued for a
key, the key has a group, and one of the configured hashes of the string is stored for it. -/
def Presentable (crypto : ApiKeyCrypto) (db : KeyDb) (t : String) : Prop :=
  (∀ row ∈ db.apiKeyTokens, (db.joined row).isSome = true → row.token = t →
    (row.apiKeyId, t) ∈ db.issued) ∧
  ∀ k, (k, t) ∈ db.issued → ∃ row ∈ db.apiKeyTokens, row.apiKeyId = k ∧
    (db.joined row).isSome = true ∧ row.token ∈ db.hasher.candidates crypto t

/-- The string authenticates as the key that it was issued for, and its validation leaves
what other strings authenticate as, stored hashes excepted. -/
structure ExactFor (crypto : ApiKeyCrypto) (db : KeyDb) (t : String) : Prop where
  accepted : ∀ k, db.authenticates crypto t = some k ↔ (k, t) ∈ db.issued
  unchanged : ∀ u, ¬ db.StoredHash u → ¬ (db.validateApiKey crypto t).2.StoredHash u →
    (db.validateApiKey crypto t).2.authenticates crypto u = db.authenticates crypto u

theorem Kept.accepted_iff (hcrypto : crypto.Injective) (hdb : db.Kept crypto) (t : String) :
    (∀ k, db.authenticates crypto t = some k ↔ (k, t) ∈ db.issued) ↔ db.Presentable crypto t := by
  constructor
  · intro h
    constructor
    · rintro row hmem hjoined rfl
      rw [← h, hdb.authenticates_iff hcrypto]
      exact ⟨row, ⟨hmem, (mem_candidates crypto).2 (.inr (.inr rfl)), hjoined⟩, rfl⟩
    · intro k hk
      rw [← h, hdb.authenticates_iff hcrypto] at hk
      obtain ⟨row, ⟨hmem, hcand, hjoined⟩, hid⟩ := hk
      exact ⟨row, hmem, hid, hjoined, hcand⟩
  · rintro ⟨hstored, hfound⟩ k
    rw [hdb.authenticates_iff hcrypto]
    constructor
    · rintro ⟨row, hrow, rfl⟩
      obtain hissued | htoken := hdb.eq_or_token_eq hcrypto hrow
      · exact hissued
      · exact hstored row hrow.1 hrow.2.2 htoken
    · intro hk
      obtain ⟨row, hmem, hid, hjoined, hcand⟩ := hfound k hk
      exact ⟨row, ⟨hmem, hcand, hjoined⟩, hid⟩

/-! ## The upgrade of a hash -/

/-- The row with the current hash of the token in place of what row `m` has stored. -/
def upgradedRow (crypto : ApiKeyCrypto) (db : KeyDb) (m : ApiKeyTokenRow) (t : String)
    (row : ApiKeyTokenRow) : ApiKeyTokenRow :=
  if row.apiKeyId = m.apiKeyId ∧ row.token = m.token then
    { row with token := db.hasher.hashActive crypto t }
  else row

theorem upgradedRow_apiKeyId (m row : ApiKeyTokenRow) (t : String) :
    (upgradedRow crypto db m t row).apiKeyId = row.apiKeyId := by
  unfold upgradedRow
  split <;> rfl

/-- What a validation does to the tables. -/
structure Upgraded (crypto : ApiKeyCrypto) (db : KeyDb) (m : ApiKeyTokenRow) (t : String)
    (db' : KeyDb) : Prop where
  matched : db.Matches crypto t m
  tokens : db'.apiKeyTokens = db.apiKeyTokens.map (upgradedRow crypto db m t)
  keys : ∃ f : ApiKeyRow → ApiKeyRow, db'.apiKeys = db.apiKeys.map f ∧
    ∀ key, (f key).id = key.id ∧ (f key).groupId = key.groupId ∧ (f key).tenantId = key.tenantId
  hasher : db'.hasher = db.hasher
  groups : db'.groups = db.groups
  tenants : db'.tenants = db.tenants
  issued : db'.issued = db.issued

theorem validateApiKey_cases (db : KeyDb) (t : String) :
    (db.validateApiKey crypto t).2 = db ∨
      ∃ m, Upgraded crypto db m t (db.validateApiKey crypto t).2 := by
  unfold validateApiKey
  cases hsel : db.selectByToken crypto t with
  | none => exact .inl rfl
  | some r =>
      obtain ⟨row, key, group, tenant⟩ := r
      obtain ⟨hrow, hid⟩ := selectByToken_eq_some hsel
      by_cases hhash : row.token = db.hasher.hashActive crypto t
      · exact .inl (by simp [hhash])
      · by_cases hother : db.hasher.hashActive crypto t ∈ db.apiKeyTokens.map (·.token)
        · exact .inl (by simp only [ne_eq, hhash, not_false_eq_true, if_true,
            upgradeApiKeyTokenHash, if_false, if_pos hother])
        · refine .inr ⟨row, ?_⟩
          simp only [ne_eq, hhash, not_false_eq_true, if_true, upgradeApiKeyTokenHash, if_false,
            if_neg hother]
          refine ⟨hrow, ?_, ⟨_, rfl, ?_⟩, rfl, rfl, rfl, rfl⟩
          · rw [hid]
            rfl
          · intro key'
            split <;> exact ⟨rfl, rfl, rfl⟩

variable {db' : KeyDb}

theorem Upgraded.joined_isSome (h : Upgraded crypto db m t db')
    (hid : row'.apiKeyId = row.apiKeyId) :
    (db'.joined row').isSome = (db.joined row).isSome := by
  obtain ⟨f, hkeys, hf⟩ := h.keys
  unfold joined group?
  rw [hkeys, h.groups, h.tenants, hid, Keyed.lookupBy_map fun key => (hf key).1]
  cases Keyed.lookupBy ApiKeyRow.id db.apiKeys row.apiKeyId with
  | none => rfl
  | some key =>
      simp only [Option.map_some, Option.bind_eq_bind, Option.bind_some, (hf key).2.1,
        (hf key).2.2]
      cases key.groupId with
      | none => rfl
      | some groupId =>
          rw [Option.bind_some, Option.bind_some]
          cases Keyed.lookupBy ApiKeyGroupRow.id db.groups groupId <;>
            cases Keyed.lookupBy TenantRow.id db.tenants key.tenantId <;> rfl

theorem Upgraded.issued_matched
    (h : Upgraded crypto db m t db') (hcrypto : crypto.Injective) (hdb : db.Kept crypto)
    (ht : db.Presentable crypto t) : (m.apiKeyId, t) ∈ db.issued := by
  obtain hissued | htoken := hdb.eq_or_token_eq hcrypto h.matched
  · exact hissued
  · exact ht.1 m h.matched.1 h.matched.2.2 htoken

theorem Upgraded.kept
    (h : Upgraded crypto db m t db') (hcrypto : crypto.Injective) (hdb : db.Kept crypto)
    (ht : db.Presentable crypto t) : db'.Kept crypto where
  tokens := by
    intro row' hrow'
    rw [h.tokens, List.mem_map] at hrow'
    obtain ⟨row, hrow, rfl⟩ := hrow'
    rw [h.issued, upgradedRow_apiKeyId, upgradedRow]
    split_ifs with hm
    · exact ⟨t, hm.1 ▸ h.issued_matched hcrypto hdb ht, .inl ⟨_, rfl⟩⟩
    · exact hdb.tokens row hrow
  plaintext := by
    rw [h.issued]
    exact hdb.plaintext
  key := by
    rw [h.issued]
    exact hdb.key
  owner := by
    rw [h.issued]
    exact hdb.owner
  stored := by
    intro k p hk
    obtain ⟨f, hkeys, hf⟩ := h.keys
    rw [hkeys, List.map_map]
    rw [h.issued] at hk
    convert hdb.stored k p hk using 2
    exact funext fun key => (hf key).1
  nodup := by
    rw [h.tokens, List.map_map]
    convert hdb.nodup using 2
    exact funext fun row => upgradedRow_apiKeyId m row t

/-- The upgraded row is found for a string that is no stored hash if the row was found for
it before. -/
theorem Upgraded.matches_iff
    (h : Upgraded crypto db m t db') (hcrypto : crypto.Injective) (hdb : db.Kept crypto)
    (ht : db.Presentable crypto t) {u : String} (hu : ¬ db.StoredHash u)
    (hu' : ¬ db'.StoredHash u) (hrow : row ∈ db.apiKeyTokens) :
    db'.Matches crypto u (upgradedRow crypto db m t row) ↔ db.Matches crypto u row := by
  have hm := h.issued_matched hcrypto hdb ht
  have hmem : upgradedRow crypto db m t row ∈ db'.apiKeyTokens :=
    h.tokens ▸ List.mem_map_of_mem hrow
  by_cases heq : row.apiKeyId = m.apiKeyId ∧ row.token = m.token
  · have hrowm : row = m := hdb.row_eq hrow h.matched.1 heq.1
    subst hrowm
    have hown : ∀ {d : KeyDb}, ¬ d.StoredHash u → d.issued = db.issued → ∀ r ∈ d.apiKeyTokens,
        r.token = u → r.apiKeyId = row.apiKeyId → u = t := by
      intro d hd hissued r hr htok hid
      refine hdb.key row.apiKeyId u t ?_ hm
      by_contra hnot
      exact hd ⟨r, hr, htok, by rwa [hissued, hid]⟩
    constructor
    · intro hmatch
      obtain hissued | htoken := (h.kept hcrypto hdb ht).eq_or_token_eq hcrypto hmatch
      · rw [h.issued, upgradedRow_apiKeyId] at hissued
        rw [hdb.key _ _ _ hissued hm]
        exact h.matched
      · rw [hown hu' h.issued _ hmem htoken (upgradedRow_apiKeyId _ _ _)]
        exact h.matched
    · intro hmatch
      have hut : u = t := by
        obtain hissued | htoken := hdb.eq_or_token_eq hcrypto hmatch
        · exact hdb.key _ _ _ hissued hm
        · exact hown hu rfl _ hrow htoken rfl
      rw [hut]
      refine ⟨hmem, ?_, ?_⟩
      · rw [upgradedRow, if_pos heq, h.hasher, mem_candidates]
        exact .inl ⟨_, active_mem _, rfl⟩
      · rw [h.joined_isSome (upgradedRow_apiKeyId _ _ _)]
        exact h.matched.2.2
  · have hsame : upgradedRow crypto db m t row = row := if_neg heq
    rw [hsame] at hmem ⊢
    unfold Matches
    rw [h.hasher, h.joined_isSome rfl]
    exact and_congr_left fun _ => ⟨fun _ => hrow, fun _ => hmem⟩

theorem Upgraded.authenticates_eq
    (h : Upgraded crypto db m t db') (hcrypto : crypto.Injective) (hdb : db.Kept crypto)
    (ht : db.Presentable crypto t) {u : String} (hu : ¬ db.StoredHash u)
    (hu' : ¬ db'.StoredHash u) :
    db'.authenticates crypto u = db.authenticates crypto u := by
  apply Option.ext
  intro k
  rw [(h.kept hcrypto hdb ht).authenticates_iff hcrypto, hdb.authenticates_iff hcrypto]
  constructor
  · rintro ⟨row', hrow', rfl⟩
    have hmem := hrow'.1
    rw [h.tokens, List.mem_map] at hmem
    obtain ⟨row, hrow, rfl⟩ := hmem
    exact ⟨row, (h.matches_iff hcrypto hdb ht hu hu' hrow).1 hrow',
      (upgradedRow_apiKeyId _ _ _).symm⟩
  · rintro ⟨row, hrow, rfl⟩
    exact ⟨upgradedRow crypto db m t row, (h.matches_iff hcrypto hdb ht hu hu' hrow.1).2 hrow,
      upgradedRow_apiKeyId _ _ _⟩

theorem Kept.exactFor_iff (hcrypto : crypto.Injective) (hdb : db.Kept crypto) (t : String) :
    db.ExactFor crypto t ↔ db.Presentable crypto t := by
  rw [← hdb.accepted_iff hcrypto]
  refine ⟨ExactFor.accepted, fun h => ⟨h, ?_⟩⟩
  intro u hu hu'
  have ht := (hdb.accepted_iff hcrypto t).1 h
  obtain heq | ⟨m, hm⟩ := validateApiKey_cases db t
  · rw [heq]
  · exact hm.authenticates_eq hcrypto hdb ht hu hu'

theorem Kept.validateApiKey (hcrypto : crypto.Injective) (hdb : db.Kept crypto)
    (ht : db.Presentable crypto t) : (db.validateApiKey crypto t).2.Kept crypto := by
  obtain heq | ⟨m, hm⟩ := validateApiKey_cases db t
  · rwa [heq]
  · exact hm.kept hcrypto hdb ht

/-! ## Runs -/

theorem Kept.insertKey (hdb : db.Kept crypto) {row : ApiKeyRow} {p : String}
    (hp : IsPlaintextKey p) (hrow : KeptOf crypto row.keyHash p)
    (hfresh : ∀ k, (k, p) ∉ db.issued) {db' : KeyDb} (h : db.insertKey row p = some db') :
    db'.Kept crypto := by
  unfold KeyDb.insertKey at h
  split_ifs at h with hconflict
  obtain rfl := Option.some.inj h
  simp only [not_or] at hconflict
  have hnew : ∀ q, (row.id, q) ∉ db.issued := fun q hq => hconflict.1 (hdb.stored _ _ hq)
  constructor
  · intro r hr
    rw [List.mem_append, List.mem_singleton] at hr
    obtain hr | rfl := hr
    · obtain ⟨q, hq, hkept⟩ := hdb.tokens r hr
      exact ⟨q, List.mem_append_left _ hq, hkept⟩
    · exact ⟨p, by simp, hrow⟩
  · intro k q hq
    rw [List.mem_append, List.mem_singleton] at hq
    obtain hq | hq := hq
    · exact hdb.plaintext k q hq
    · cases hq
      exact hp
  · intro k q q' hq hq'
    rw [List.mem_append, List.mem_singleton] at hq hq'
    obtain hq | hq := hq
    · obtain hq' | hq' := hq'
      · exact hdb.key k q q' hq hq'
      · cases hq'
        exact absurd hq (hnew q)
    · cases hq
      obtain hq' | hq' := hq'
      · exact absurd hq' (hnew q')
      · cases hq'
        rfl
  · intro k k' q hq hq'
    rw [List.mem_append, List.mem_singleton] at hq hq'
    obtain hq | hq := hq
    · obtain hq' | hq' := hq'
      · exact hdb.owner k k' q hq hq'
      · cases hq'
        exact absurd hq (hfresh k)
    · cases hq
      obtain hq' | hq' := hq'
      · exact absurd hq' (hfresh k')
      · cases hq'
        rfl
  · intro k q hq
    rw [List.mem_append, List.mem_singleton] at hq
    rw [List.map_append, List.mem_append]
    obtain hq | hq := hq
    · exact .inl (hdb.stored k q hq)
    · cases hq
      simp
  · rw [List.map_append, List.nodup_append]
    refine ⟨hdb.nodup, by simp, ?_⟩
    intro k hk k' hk'
    simp only [List.map_cons, List.map_nil, List.mem_singleton] at hk'
    rw [hk']
    rintro rfl
    exact hconflict.2.2.2 hk

theorem Kept.ensureSchema (hdb : db.Kept crypto) (hasher : ApiKeyTokenHasher) (newGroupId : Uuid)
    (now : DateTime) : ({ db with hasher := hasher }.ensureSchema newGroupId now).Kept crypto where
  tokens := hdb.tokens
  plaintext := hdb.plaintext
  key := hdb.key
  owner := hdb.owner
  stored := by
    intro k p hk
    unfold KeyDb.ensureSchema
    rw [List.map_map]
    convert hdb.stored k p hk using 2
    funext key
    rw [Function.comp_apply]
    split <;> rfl
  nodup := hdb.nodup

/-- The plaintext that is drawn for a new key has not been issued before. -/
def FreshDraw (db : KeyDb) : Op → Prop
  | .createApiKey draw _ | .createTenantApiKey draw _ _ => ∀ k, (k, draw.plaintextKey) ∉ db.issued
  | .restart _ _ _ | .validate _ => True

def PresentableOp (crypto : ApiKeyCrypto) (db : KeyDb) : Op → Prop
  | .validate t => db.Presentable crypto t
  | .createApiKey _ _ | .createTenantApiKey _ _ _ | .restart _ _ _ => True

def ExactOp (crypto : ApiKeyCrypto) (db : KeyDb) : Op → Prop
  | .validate t => db.ExactFor crypto t
  | .createApiKey _ _ | .createTenantApiKey _ _ _ | .restart _ _ _ => True

theorem Kept.exactOp_iff (hcrypto : crypto.Injective) (hdb : db.Kept crypto) (op : Op) :
    db.ExactOp crypto op ↔ db.PresentableOp crypto op := by
  cases op with
  | validate t => exact hdb.exactFor_iff hcrypto t
  | createApiKey draw req => exact Iff.rfl
  | createTenantApiKey draw tenantId req => exact Iff.rfl
  | restart rawKeys newGroupId now => exact Iff.rfl

theorem Kept.step (hcrypto : crypto.Injective) (hdb : db.Kept crypto) {op : Op}
    (hfresh : db.FreshDraw op) (hop : db.ExactOp crypto op) : (db.step crypto op).Kept crypto := by
  cases op with
  | createApiKey draw req =>
      rw [KeyDb.step]
      cases hins : db.insertApiKey crypto draw req with
      | none => exact hdb
      | some db' => exact hdb.insertKey ⟨draw.secret, rfl⟩ (.inl ⟨_, rfl⟩) hfresh hins
  | createTenantApiKey draw tenantId req =>
      rw [KeyDb.step]
      cases hins : db.createTenantApiKey crypto draw tenantId req with
      | none => exact hdb
      | some db' =>
          unfold KeyDb.createTenantApiKey at hins
          dsimp only at hins
          split_ifs at hins
          obtain ⟨groupId, -, hins⟩ := Option.bind_eq_some_iff.1 hins
          exact hdb.insertKey ⟨draw.secret, rfl⟩ (.inl ⟨_, rfl⟩) hfresh hins
  | restart rawKeys newGroupId now =>
      rw [KeyDb.step]
      cases ApiKeyTokenHasher.fromRawKeys crypto rawKeys with
      | error e => exact hdb
      | ok hasher => exact hdb.ensureSchema hasher newGroupId now
  | validate t => exact hdb.validateApiKey hcrypto ((hdb.exactFor_iff hcrypto t).1 hop)

instance (t : String) : Decidable (db.Presentable crypto t) :=
  decidable_of_iff
    ((∀ row ∈ db.apiKeyTokens, (db.joined row).isSome = true → row.token = t →
        (row.apiKeyId, t) ∈ db.issued) ∧
      ∀ x ∈ db.issued, x.2 = t → ∃ row ∈ db.apiKeyTokens, row.apiKeyId = x.1 ∧
        (db.joined row).isSome = true ∧ row.token ∈ db.hasher.candidates crypto t)
    (and_congr_right fun _ =>
      ⟨fun h k hk => h (k, t) hk rfl, fun h x hx ht => h x.1 (ht ▸ hx)⟩)

instance : ∀ op : Op, Decidable (db.PresentableOp crypto op)
  | .validate t => inferInstanceAs (Decidable (db.Presentable crypto t))
  | .createApiKey _ _ | .createTenantApiKey _ _ _ | .restart _ _ _ =>
    inferInstanceAs (Decidable True)

theorem freshDraw_iff (p : String) :
    (∀ x ∈ db.issued, x.2 ≠ p) ↔ ∀ k, (k, p) ∉ db.issued :=
  ⟨fun h k hk => h (k, p) hk rfl, fun h x hx hp => h x.1 (hp ▸ hx)⟩

instance : ∀ op : Op, Decidable (db.FreshDraw op)
  | .createApiKey draw _ | .createTenantApiKey draw _ _ =>
    decidable_of_iff _ (freshDraw_iff draw.plaintextKey)
  | .restart _ _ _ | .validate _ => inferInstanceAs (Decidable True)

/-! ## A store with one key -/

def sampleDraw : KeyDraw where
  id := ⟨"key-1"⟩
  secret := [0x00, 0x11, 0x22, 0x33, 0x44, 0x55, 0x46, 0x77, 0x88, 0x99, 0xaa, 0xbb, 0xcc, 0xdd,
    0xee, 0xff]
  now := 0

/-- The digests of the sample's plaintext under its two keys, and different texts for all
other messages. -/
def sampleCrypto : ApiKeyCrypto where
  hmacSha256 secret m :=
    if m = asBytes sampleDraw.plaintextKey then
      if secret = List.replicate 32 0x11 then
        [58, 120, 229, 16, 106, 188, 165, 34, 137, 208, 146, 43, 15, 235, 54, 116, 221, 170, 37,
          168, 17, 67, 80, 36, 22, 47, 163, 59, 230, 107, 15, 123]
      else
        [168, 51, 195, 247, 69, 209, 31, 236, 32, 203, 202, 186, 131, 79, 232, 66, 20, 37, 221,
          69, 134, 195, 84, 60, 138, 48, 164, 215, 80, 190, 16, 171]
    else m ++ List.replicate 33 0
  sha256 m :=
    if m = asBytes sampleDraw.plaintextKey then
      [108, 173, 28, 214, 220, 27, 224, 3, 112, 1, 61, 121, 205, 113, 30, 232, 141, 38, 99, 23, 79,
        130, 237, 59, 78, 30, 182, 50, 152, 37, 60, 82]
    else m ++ List.replicate 33 0
  decodeBase64 s :=
    if s = "ERERERERERERERERERERERERERERERERERERERERERE=" then some (List.replicate 32 0x11)
    else if s = "IiIiIiIiIiIiIiIiIiIiIiIiIiIiIiIiIiIiIiIiIiI=" then
      some (List.replicate 32 0x22)
    else none

theorem eq_of_ite_eq {p m m' d d' : Bytes} (hd : d.length ≤ 32) (hd' : d'.length ≤ 32)
    (h : (if m = p then d else m ++ List.replicate 33 0) =
      if m' = p then d' else m' ++ List.replicate 33 0) : m = m' := by
  split_ifs at h with hm hm'
  · exact hm.trans hm'.symm
  · have hlength := congrArg List.length h
    rw [List.length_append, List.length_replicate] at hlength
    omega
  · have hlength := congrArg List.length h
    rw [List.length_append, List.length_replicate] at hlength
    omega
  · exact List.append_cancel_right h

theorem sampleCrypto_injective : sampleCrypto.Injective where
  hmac k k' m m' h := by
    refine eq_of_ite_eq ?_ ?_ h
    · split <;> decide
    · split <;> decide
  sha m m' h := eq_of_ite_eq (by decide) (by decide) h

def sampleKey : ApiKeyHmacKey where
  keyId := "test"
  secret := List.replicate 32 0x11

def sampleGroup : ApiKeyGroupRow where
  id := ⟨"group-1"⟩
  name := "Default"
  isDefault := true
  enabled := true
  allowAllModels := true
  deletedAt := none
  updatedAt := 0

def sampleDb : KeyDb where
  hasher := { active := sampleKey, all := [sampleKey], head_eq := rfl }
  tenants := [{ id := ⟨"tenant-1"⟩, status := some "active", expiresAt := none }]
  balances := fun _ => none
  groups := [sampleGroup]
  policies := []
  catalogModels := []
  apiKeys := []
  apiKeyTokens := []
  issued := []

theorem sampleDb_kept : sampleDb.Kept sampleCrypto where
  tokens := by simp [sampleDb]
  plaintext := by simp [sampleDb]
  key := by simp [sampleDb]
  owner := by simp [sampleDb]
  stored := by simp [sampleDb]
  nodup := by simp [sampleDb]

def sampleCreate : Op :=
  .createTenantApiKey sampleDraw ⟨"tenant-1"⟩
    { name := "ci", groupId := none, ipAllowlist := [], modelAllowlist := [] }

/-- The key is validated before and after a restart with a new active key, which upgrades its
hash. -/
def rotatedOps : List Op :=
  [sampleCreate, .validate sampleDraw.plaintextKey,
    .restart ("next:IiIiIiIiIiIiIiIiIiIiIiIiIiIiIiIiIiIiIiIiIiI=,test:" ++
      "ERERERERERERERERERERERERERERERERERERERERERE=") ⟨"group-2"⟩ 1,
    .validate sampleDraw.plaintextKey, .validate sampleDraw.plaintextKey, .validate "cp_other"]

end KeyDb

end CodexPool
