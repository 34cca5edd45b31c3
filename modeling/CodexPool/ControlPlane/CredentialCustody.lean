import CodexPool.ControlPlane.OAuthWorld

/-!
# Refreshed credentials

A refresh reads the whole credential of its account, waits for the upstream and writes the whole
record: a new one when it has succeeded, the one that it read when it has failed. Whether the
tokens of the latest answer stay depends on what other operations did in the meantime.
-/

namespace CodexPool

namespace OAuthWorld

open OAuthStore (HoldsTokens)

variable {cfg : OAuthConfig} {w : OAuthWorld}

/-! ## What a step may do -/

/-- The credential of an account holds the tokens of the latest answer for it. -/
def HoldsLatest (cfg : OAuthConfig) (w : OAuthWorld) : Prop :=
  ∀ id ∈ w.store.ids, ∀ n info, w.latest id = some (n, info) →
    ∃ credential, w.store.credentials id = some credential ∧ HoldsTokens cfg info credential

/-- The credentials of accounts that stay satisfy a relation. -/
def CredentialsRelated (R : OAuthCredentialRecord → OAuthCredentialRecord → Prop)
    (s s' : OAuthStore) : Prop :=
  ∀ id ∈ s.ids, id ∈ s'.ids → ∀ c c', s.credentials id = some c → s'.credentials id = some c' →
    R c c'

def VersionsGrow : OAuthStore → OAuthStore → Prop :=
  CredentialsRelated fun c c' => c.tokenVersion ≤ c'.tokenVersion

def FallbacksStay : OAuthStore → OAuthStore → Prop :=
  CredentialsRelated fun c c' => c'.fallbackAccessTokenEnc = c.fallbackAccessTokenEnc ∧
    c'.fallbackTokenExpiresAt = c.fallbackTokenExpiresAt

/-- The step is the end of a refresh that succeeded. -/
def RefreshSucceeds (w : OAuthWorld) : OAuthOp → Prop
  | .finish k _ => ∃ call n info, w.pending[k]? = some ⟨.refresh call, some (n, .ok info)⟩
  | _ => False

/-- No refreshed credential is lost by the step. -/
structure Kept (cfg : OAuthConfig) (w : OAuthWorld) (op : OAuthOp) : Prop where
  holds : HoldsLatest cfg (w.step cfg op)
  versions : VersionsGrow w.store (w.step cfg op).store
  fallbacks : RefreshSucceeds w op → FallbacksStay w.store (w.step cfg op).store

/-! ## When a step keeps credentials -/

/-- No answer that was given later has been taken up. -/
def UpToDate (w : OAuthWorld) (id : Uuid) (n : Nat) : Prop :=
  ∀ m info, w.latest id = some (m, info) → m ≤ n

def RefreshSafe (cfg : OAuthConfig) (w : OAuthWorld) (call : OAuthStore.RefreshCall) (n : Nat) :
    RefreshAnswer → Prop
  | .ok info =>
    (∃ cipher, cfg.credentialCipher = some cipher ∧
      (∃ enc, cipher.encrypt info.accessToken = .ok enc) ∧
        ∃ enc, cipher.encrypt info.refreshToken = .ok enc) ∧
      UpToDate w call.accountId n ∧
        ∀ c, w.store.credentials call.accountId = some c →
          c.fallbackAccessTokenEnc = none ∧ c.fallbackTokenExpiresAt = none ∧
            c.tokenVersion ≤ OAuthCredentialRecord.nextVersion call.credential.tokenVersion
  | .error _ =>
    (∀ m info, w.latest call.accountId = some (m, info) → HoldsTokens cfg info call.credential) ∧
      ∀ c, w.store.credentials call.accountId = some c →
        c.tokenVersion ≤ call.credential.tokenVersion

def FinishSafe (cfg : OAuthConfig) (w : OAuthWorld) (draw : OAuthStore.UpsertDraw) :
    PendingCall → Prop
  | ⟨.refresh call, some (n, answer)⟩ =>
    call.accountId ∈ w.store.ids → RefreshSafe cfg w call n answer
  | ⟨.upsert call, some (n, .ok info)⟩ =>
    OAuthStore.Encryptable cfg call info ∧
      UpToDate w (w.store.accountOfUpsert cfg call info draw).id n
  | ⟨.upsert _, some (_, .error _)⟩ => True
  | ⟨_, none⟩ => True

/-- A refresh that succeeded finds no fallback token, no higher version and no later answer than
what it brings; one that failed has read the tokens of the latest answer and the highest version;
tokens can be encrypted; and a ready record goes to no account that has had an answer. -/
def Safe (cfg : OAuthConfig) (w : OAuthWorld) : OAuthOp → Prop
  | .finish k draw => ∀ p, w.pending[k]? = some p → FinishSafe cfg w draw p
  | .materializeReady record _ now =>
    OAuthStore.Materializable cfg record now →
      ∀ a, w.store.matchedOauthAccountIdForVaultRecord record = some a → w.latest a.id = none
  | _ => True

def Fresh (w : OAuthWorld) : OAuthOp → Prop
  | .finish _ draw => draw.accountId ∉ w.store.ids
  | .materializeReady _ newId _ => newId ∉ w.store.ids
  | _ => True

/-- What holds between steps. Versions are counted in 64 bits. -/
structure Inv (cfg : OAuthConfig) (w : OAuthWorld) : Prop where
  keyed : w.store.WellKeyed
  holds : HoldsLatest cfg w
  known : ∀ id, w.latest id ≠ none → id ∈ w.store.ids
  versions : ∀ id c, w.store.credentials id = some c → c.tokenVersion < 2 ^ 64
  pending : ∀ p ∈ w.pending, ∀ call, p.call = .refresh call →
    call.credential.tokenVersion < 2 ^ 64

/-! ## Tokens that stay -/

structure SameTokens (c c' : OAuthCredentialRecord) : Prop where
  accessTokenEnc : c'.accessTokenEnc = c.accessTokenEnc
  refreshTokenEnc : c'.refreshTokenEnc = c.refreshTokenEnc
  refreshTokenSha256 : c'.refreshTokenSha256 = c.refreshTokenSha256

theorem HoldsTokens.of_same {info : OAuthTokenInfo} {c c' : OAuthCredentialRecord}
    (h : HoldsTokens cfg info c) (hsame : SameTokens c c') : HoldsTokens cfg info c' := by
  obtain ⟨hsha, hencrypted⟩ := h
  constructor
  · rw [hsame.refreshTokenSha256]
    exact hsha
  · rw [hsame.accessTokenEnc, hsame.refreshTokenEnc]
    exact hencrypted

variable {w' : OAuthWorld}

theorem HoldsLatest.of_step (h : HoldsLatest cfg w)
    (hstep : ∀ id ∈ w'.store.ids, ∀ n info, w'.latest id = some (n, info) →
      (∃ c, w'.store.credentials id = some c ∧ HoldsTokens cfg info c) ∨
        id ∈ w.store.ids ∧ w.latest id = some (n, info) ∧
          ∀ c, w.store.credentials id = some c →
            ∃ c', w'.store.credentials id = some c' ∧ SameTokens c c') :
    HoldsLatest cfg w' := by
  intro id hid n info hlatest
  obtain hnew | ⟨hold, hsame, htokens⟩ := hstep id hid n info hlatest
  · exact hnew
  · obtain ⟨c, hc, hholds⟩ := h id hold n info hsame
    obtain ⟨c', hc', hsame⟩ := htokens c hc
    exact ⟨c', hc', HoldsTokens.of_same hholds hsame⟩

theorem CredentialsRelated.refl {R : OAuthCredentialRecord → OAuthCredentialRecord → Prop}
    (hR : ∀ c, R c c) (s : OAuthStore) : CredentialsRelated R s s := by
  intro id _ _ c c' hc hc'
  obtain rfl := Option.some.inj (hc.symm.trans hc')
  exact hR c

theorem CredentialsRelated.of_update {R : OAuthCredentialRecord → OAuthCredentialRecord → Prop}
    (hR : ∀ c, R c c) {s s' : OAuthStore} {accountId : Uuid} {credential : OAuthCredentialRecord}
    (hcredentials : s'.credentials = Function.update s.credentials accountId (some credential))
    (h : accountId ∈ s.ids → ∀ c, s.credentials accountId = some c → R c credential) :
    CredentialsRelated R s s' := by
  intro id hid _ c c' hc hc'
  rw [hcredentials] at hc'
  by_cases heq : id = accountId
  · subst heq
    rw [Function.update_self] at hc'
    obtain rfl := Option.some.inj hc'
    exact h hid c hc
  · rw [Function.update_of_ne heq, hc] at hc'
    obtain rfl := Option.some.inj hc'
    exact hR c

theorem versions_of_update {s s' : OAuthStore} {accountId : Uuid}
    {credential : OAuthCredentialRecord}
    (hcredentials : s'.credentials = Function.update s.credentials accountId (some credential))
    (h : ∀ id c, s.credentials id = some c → c.tokenVersion < 2 ^ 64)
    (hnew : credential.tokenVersion < 2 ^ 64) :
    ∀ id c, s'.credentials id = some c → c.tokenVersion < 2 ^ 64 := by
  intro id c hc
  rw [hcredentials] at hc
  by_cases heq : id = accountId
  · subst heq
    rw [Function.update_self] at hc
    obtain rfl := Option.some.inj hc
    exact hnew
  · rw [Function.update_of_ne heq] at hc
    exact h id c hc

theorem nextVersion_lt (version : Nat) : OAuthCredentialRecord.nextVersion version < 2 ^ 64 := by
  unfold OAuthCredentialRecord.nextVersion
  omega

theorem le_nextVersion {version : Nat} (h : version < 2 ^ 64) :
    version ≤ OAuthCredentialRecord.nextVersion version := by
  unfold OAuthCredentialRecord.nextVersion
  omega

/-- What a step that meets its condition does. -/
structure StepKeeps (cfg : OAuthConfig) (w w' : OAuthWorld) (refreshed : Prop) : Prop where
  inv : Inv cfg w'
  versions : VersionsGrow w.store w'.store
  fallbacks : refreshed → FallbacksStay w.store w'.store

theorem StepKeeps.mono {refreshed refreshed' : Prop}
    (h : StepKeeps cfg w w' refreshed) (himp : refreshed' → refreshed) :
    StepKeeps cfg w w' refreshed' :=
  ⟨h.inv, h.versions, fun hrefreshed => h.fallbacks (himp hrefreshed)⟩

/-- Steps that leave the store. -/
theorem StepKeeps.of_store_eq {refreshed : Prop} (hinv : Inv cfg w)
    (hstore : w'.store = w.store) (hlatest : w'.latest = w.latest)
    (hpending : ∀ p ∈ w'.pending, ∀ call, p.call = .refresh call →
      call.credential.tokenVersion < 2 ^ 64) :
    StepKeeps cfg w w' refreshed where
  inv := by
    refine ⟨?_, ?_, ?_, ?_, hpending⟩
    · rw [hstore]
      exact hinv.keyed
    · intro id hid n info h
      rw [hstore] at hid ⊢
      rw [hlatest] at h
      exact hinv.holds id hid n info h
    · rw [hstore, hlatest]
      exact hinv.known
    · rw [hstore]
      exact hinv.versions
  versions := by
    rw [hstore]
    exact .refl (fun c => le_refl c.tokenVersion) _
  fallbacks _ := by
    rw [hstore]
    exact .refl (fun _ => ⟨rfl, rfl⟩) _

section Steps

variable (hinv : Inv cfg w)

include hinv

theorem stepKeeps_startRefresh (accountId : Uuid) (force : Bool) (now : DateTime) :
    StepKeeps cfg w (w.startRefresh cfg accountId force now) False := by
  unfold startRefresh
  split
  · rename_i call hcall
    refine .of_store_eq hinv rfl rfl ?_
    intro p hp call' hcall'
    obtain hp | rfl : p ∈ w.pending ∨ p = ⟨.refresh call, none⟩ := by
      simpa [send] using hp
    · exact hinv.pending p hp call' hcall'
    · obtain rfl := OAuthCall.refresh.inj hcall'
      exact hinv.versions _ _ (OAuthStore.startRefresh_eq_some hcall).2.2.1
  · exact .of_store_eq hinv rfl rfl hinv.pending

theorem stepKeeps_startUpsert (req : ImportOAuthRefreshTokenRequest) :
    StepKeeps cfg w (w.startUpsert cfg req) False := by
  unfold startUpsert
  split
  · rename_i call _
    refine .of_store_eq hinv rfl rfl ?_
    intro p hp call' hcall'
    obtain hp | rfl : p ∈ w.pending ∨ p = ⟨.upsert call, none⟩ := by
      simpa [send] using hp
    · exact hinv.pending p hp call' hcall'
    · cases hcall'
  · exact .of_store_eq hinv rfl rfl hinv.pending

theorem stepKeeps_receive (k : Nat) (answer : RefreshAnswer) :
    StepKeeps cfg w (w.receive k answer) False := by
  unfold receive
  split
  · rename_i call hk
    refine .of_store_eq hinv rfl rfl ?_
    intro p hp call' hcall'
    obtain hp | rfl := List.mem_or_eq_of_mem_set hp
    · exact hinv.pending p hp call' hcall'
    · exact hinv.pending _ (List.mem_of_getElem? hk) call' hcall'
  · exact .of_store_eq hinv rfl rfl hinv.pending

theorem stepKeeps_setOauthFamilyEnabled (accountId : Uuid) (enabled : Bool) (now : DateTime) :
    StepKeeps cfg w (w.setOauthFamilyEnabled accountId enabled now) False := by
  unfold setOauthFamilyEnabled
  split
  · rename_i store hstore
    obtain ⟨f, hf, hids, hcredentials⟩ := OAuthStore.setOauthFamilyEnabledInner_eq_ok hstore
    have hsame (c : OAuthCredentialRecord) : SameTokens c (f c) ∧ (f c).tokenVersion =
        c.tokenVersion := by
      obtain h | h := hf c <;> rw [h] <;> exact ⟨⟨rfl, rfl, rfl⟩, rfl⟩
    refine ⟨⟨?_, ?_, ?_, ?_, hinv.pending⟩, ?_, False.elim⟩
    · exact OAuthStore.KeepsIds.wellKeyed ⟨hids, hcredentials⟩ hinv.keyed
    · refine hinv.holds.of_step fun id hid n info hlatest => .inr ⟨hids ▸ hid, hlatest, ?_⟩
      intro c hc
      refine ⟨f c, ?_, (hsame c).1⟩
      simp only [hcredentials, hc, Option.map_some]
    · exact fun id hid => hids.symm ▸ hinv.known id hid
    · intro id c' hc'
      simp only [hcredentials, Option.map_eq_some_iff] at hc'
      obtain ⟨c, hc, rfl⟩ := hc'
      rw [(hsame c).2]
      exact hinv.versions id c hc
    · intro id _ _ c c' hc hc'
      simp only [hcredentials, hc, Option.map_some, Option.some.injEq] at hc'
      rw [← hc', (hsame c).2]
  · exact .of_store_eq hinv rfl rfl hinv.pending

theorem stepKeeps_materializeReady {record : OAuthRefreshTokenVaultRecord} {newId : Uuid}
    {now : DateTime} (hfresh : newId ∉ w.store.ids)
    (hsafe : Safe cfg w (.materializeReady record newId now)) :
    StepKeeps cfg w (w.materializeReady cfg record newId now) False := by
  unfold materializeReady
  split
  · rename_i account store hstore
    obtain ⟨credential, profile, -, -, hversion, hid, hstored⟩ :=
      OAuthStore.materializeReady_stored hinv.keyed hstore
    dsimp only at hid hstored
    have hnone : w.latest account.id = none := by
      rw [hid]
      unfold OAuthStore.readyAccountId
      cases hmatched : w.store.matchedOauthAccountIdForVaultRecord record with
      | none => exact not_not.1 fun h => hfresh (hinv.known newId h)
      | some a =>
          obtain ⟨_, _, htoken, hexpires, hvalid, -⟩ := OAuthStore.materializeReady_eq_ok.1 hstore
          exact hsafe ⟨_, _, htoken, hexpires, hvalid⟩ a hmatched
    have hbound : credential.tokenVersion < 2 ^ 64 := by
      rw [hversion]
      unfold OAuthStore.readyVersion
      cases h : (w.store.matchedOauthAccountIdForVaultRecord record).bind
          fun a => w.store.credentials a.id with
      | none => decide
      | some c =>
          obtain ⟨a, -, hc⟩ := Option.bind_eq_some_iff.1 h
          exact hinv.versions a.id c hc
    refine ⟨⟨hstored.keyed, ?_, ?_, ?_, hinv.pending⟩, ?_, False.elim⟩
    · refine hinv.holds.of_step fun id hmem n info hlatest => .inr ?_
      have hne : id ≠ account.id := by
        rintro rfl
        exact absurd (hnone.symm.trans hlatest) (by simp)
      refine ⟨(hstored.mem_ids_iff.1 hmem).resolve_left hne, hlatest,
        fun c hc => ⟨c, ?_, rfl, rfl, rfl⟩⟩
      rw [hstored.credentials, Function.update_of_ne hne]
      exact hc
    · exact fun id h => hstored.mem_ids_iff.2 (.inr (hinv.known id h))
    · exact versions_of_update hstored.credentials hinv.versions hbound
    · refine .of_update (fun c => le_refl c.tokenVersion) hstored.credentials fun hmem c hc => ?_
      rw [hversion]
      rw [hid] at hmem hc
      unfold OAuthStore.readyAccountId at hmem hc
      unfold OAuthStore.readyVersion
      cases hmatched : w.store.matchedOauthAccountIdForVaultRecord record with
      | none =>
          rw [hmatched] at hmem
          exact absurd hmem hfresh
      | some a =>
          rw [hmatched, Option.map_some, Option.getD_some] at hc
          rw [Option.bind_some, hc]
          exact le_refl _
  · exact .of_store_eq hinv rfl rfl hinv.pending

section Finished

omit hinv

variable {k n : Nat} {call : OAuthCall} {answer : RefreshAnswer} {draw : OAuthStore.UpsertDraw}
  {id : Uuid}

theorem known_finished (h : (w.finished cfg k call n answer draw).latest id ≠ none) :
    id ∈ (w.finished cfg k call n answer draw).store.ids := by
  by_contra hid
  exact h (if_neg hid)

theorem latest_finished {m : Nat} {info : OAuthTokenInfo}
    (h : (w.finished cfg k call n answer draw).latest id = some (m, info)) :
    (∃ info', answer = .ok info' ∧ id = call.accountId cfg w.store info' draw ∧
        (m, info) = newest (w.latest id) n info') ∨
      w.latest id = some (m, info) ∧
        ∀ info', answer = .ok info' → id ≠ call.accountId cfg w.store info' draw := by
  simp only [finished, latestAfter] at h
  split_ifs at h
  cases answer with
  | error err => exact .inr ⟨h, fun _ h => by cases h⟩
  | ok info' =>
      dsimp only at h
      split_ifs at h with heq
      · exact .inl ⟨info', rfl, heq, (Option.some.inj h).symm⟩
      · refine .inr ⟨h, ?_⟩
        rintro _ ⟨⟩
        exact heq

theorem newest_of_upToDate (h : UpToDate w id n) (info : OAuthTokenInfo) :
    newest (w.latest id) n info = (n, info) := by
  unfold newest
  split
  · rfl
  · rename_i m old hlatest
    rw [if_neg (Nat.not_lt.2 (h m old hlatest))]

end Finished

theorem pending_eraseIdx (k : Nat) : ∀ p ∈ w.pending.eraseIdx k, ∀ call, p.call = .refresh call →
    call.credential.tokenVersion < 2 ^ 64 :=
  fun p hp => hinv.pending p (List.mem_of_mem_eraseIdx hp)

variable {k n : Nat} {call : OAuthStore.RefreshCall} {draw : OAuthStore.UpsertDraw}

theorem stepKeeps_refresh_error {err : OAuthTokenClientError}
    (hk : w.pending[k]? = some ⟨.refresh call, some (n, .error err)⟩)
    (hsafe : call.accountId ∈ w.store.ids → RefreshSafe cfg w call n (.error err)) :
    StepKeeps cfg w (w.finished cfg k (.refresh call) n (.error err) draw) False := by
  obtain ⟨s', hs', hkeeps⟩ :=
    OAuthStore.finishRefresh_of_error cfg w.store call err draw.familyId draw.now
  have hstore : (w.finished cfg k (.refresh call) n (.error err) draw).store = s' := by
    simp only [finished, OAuthCall.finish, hs']
  have hbound := hinv.pending _ (List.mem_of_getElem? hk) call rfl
  refine ⟨⟨?_, ?_, ?_, ?_, pending_eraseIdx hinv k⟩, ?_, False.elim⟩
  · rw [hstore]
    exact hkeeps.wellKeyed hinv.keyed
  · refine hinv.holds.of_step fun id hid n' info hlatest => ?_
    have hold : w.latest id = some (n', info) := by
      obtain ⟨_, ⟨⟩, -⟩ | ⟨hold, -⟩ := latest_finished hlatest
      exact hold
    rw [hstore] at hid ⊢
    rw [hkeeps.ids] at hid
    by_cases heq : id = call.accountId
    · subst heq
      refine .inl ⟨call.credential.failed err call.now, ?_, ?_⟩
      · rw [hkeeps.credentials, Function.update_self]
      · exact HoldsTokens.of_same ((hsafe hid).1 n' info hold) ⟨rfl, rfl, rfl⟩
    · refine .inr ⟨hid, hold, fun c hc => ⟨c, ?_, rfl, rfl, rfl⟩⟩
      rw [hkeeps.credentials, Function.update_of_ne heq]
      exact hc
  · exact fun id h => known_finished h
  · rw [hstore]
    exact versions_of_update hkeeps.credentials hinv.versions hbound
  · rw [hstore]
    exact .of_update (fun c => le_refl c.tokenVersion) hkeeps.credentials
      fun hmem c hc => (hsafe hmem).2 c hc

variable {info : OAuthTokenInfo}

/-- The account of the refresh is gone: what it writes belongs to no account. -/
theorem stepKeeps_refresh_gone (hgone : call.accountId ∉ w.store.ids) :
    StepKeeps cfg w (w.finished cfg k (.refresh call) n (.ok info) draw) True := by
  obtain ⟨hids, hcredentials, hversions⟩ :
      (w.finished cfg k (.refresh call) n (.ok info) draw).store.ids = w.store.ids ∧
        (∀ id ∈ w.store.ids, (w.finished cfg k (.refresh call) n (.ok info) draw).store.credentials
          id = w.store.credentials id) ∧
        ∀ id c, (w.finished cfg k (.refresh call) n (.ok info) draw).store.credentials id = some c →
          c.tokenVersion < 2 ^ 64 := by
    simp only [finished, OAuthCall.finish]
    split
    · rename_i s' hs'
      obtain ⟨credential, -, hversion, -, -, hkeeps⟩ := OAuthStore.finishRefresh_of_ok hs'
      refine ⟨hkeeps.ids, fun id hid => ?_, ?_⟩
      · rw [hkeeps.credentials, Function.update_of_ne]
        rintro rfl
        exact hgone hid
      · exact versions_of_update hkeeps.credentials hinv.versions (hversion ▸ nextVersion_lt _)
    · exact ⟨rfl, fun _ _ => rfl, hinv.versions⟩
  have hrelated {R : OAuthCredentialRecord → OAuthCredentialRecord → Prop} (hR : ∀ c, R c c) :
      CredentialsRelated R w.store
        (w.finished cfg k (.refresh call) n (.ok info) draw).store := by
    intro id hid _ c c' hc hc'
    rw [hcredentials id hid] at hc'
    obtain rfl := Option.some.inj (hc.symm.trans hc')
    exact hR c
  refine ⟨⟨?_, ?_, fun id h => known_finished h, hversions, pending_eraseIdx hinv k⟩,
    hrelated fun c => le_refl c.tokenVersion, fun _ => hrelated fun _ => ⟨rfl, rfl⟩⟩
  · have hnd : w.store.ids.Nodup := hinv.keyed
    rw [← hids] at hnd
    exact hnd
  · refine hinv.holds.of_step fun id hid m info' hlatest => ?_
    rw [hids] at hid
    obtain ⟨_, ⟨⟩, rfl, -⟩ | ⟨hold, -⟩ := latest_finished hlatest
    · exact absurd hid hgone
    · exact .inr ⟨hid, hold, fun c hc => ⟨c, (hcredentials id hid).trans hc, rfl, rfl, rfl⟩⟩

theorem stepKeeps_refresh_ok (hsafe : RefreshSafe cfg w call n (.ok info)) :
    StepKeeps cfg w (w.finished cfg k (.refresh call) n (.ok info) draw) True := by
  obtain ⟨⟨cipher, hcipher, haccess, hrefresh⟩, hupToDate, hstored⟩ := hsafe
  obtain ⟨s', hs'⟩ := OAuthStore.finishRefresh_ok_of_encrypts w.store call draw.familyId
    draw.now hcipher haccess hrefresh
  obtain ⟨credential, hholds, hversion, hfallback, hexpires, hkeeps⟩ :=
    OAuthStore.finishRefresh_of_ok hs'
  have hstore : (w.finished cfg k (.refresh call) n (.ok info) draw).store = s' := by
    simp only [finished, OAuthCall.finish, hs']
  have hbound : credential.tokenVersion < 2 ^ 64 := hversion ▸ nextVersion_lt _
  refine ⟨⟨?_, ?_, ?_, ?_, pending_eraseIdx hinv k⟩, ?_, fun _ => ?_⟩
  · rw [hstore]
    exact hkeeps.wellKeyed hinv.keyed
  · refine hinv.holds.of_step fun id hid m info' hlatest => ?_
    rw [hstore] at hid ⊢
    rw [hkeeps.ids] at hid
    obtain ⟨_, ⟨⟩, rfl, hnewest⟩ | ⟨hold, hne⟩ := latest_finished hlatest
    · rw [OAuthCall.accountId, newest_of_upToDate hupToDate] at hnewest
      obtain ⟨rfl, rfl⟩ := Prod.mk.inj hnewest
      refine .inl ⟨credential, ?_, hholds⟩
      rw [hkeeps.credentials, OAuthCall.accountId, Function.update_self]
    · have hne : id ≠ call.accountId := hne info rfl
      refine .inr ⟨hid, hold, fun c hc => ⟨c, ?_, rfl, rfl, rfl⟩⟩
      rw [hkeeps.credentials, Function.update_of_ne hne]
      exact hc
  · exact fun id h => known_finished h
  · rw [hstore]
    exact versions_of_update hkeeps.credentials hinv.versions hbound
  · rw [hstore]
    refine .of_update (fun c => le_refl c.tokenVersion) hkeeps.credentials fun _ c hc => ?_
    rw [hversion]
    exact (hstored c hc).2.2
  · rw [hstore]
    refine .of_update (fun _ => ⟨rfl, rfl⟩) hkeeps.credentials fun _ c hc => ?_
    obtain ⟨hnone, hnone', -⟩ := hstored c hc
    exact ⟨hfallback.trans hnone.symm, hexpires.trans hnone'.symm⟩

theorem stepKeeps_upsert_error {call : OAuthStore.UpsertCall} {err : OAuthTokenClientError} :
    StepKeeps cfg w (w.finished cfg k (.upsert call) n (.error err) draw) False := by
  refine ⟨⟨hinv.keyed, ?_, fun id h => known_finished h, hinv.versions, pending_eraseIdx hinv k⟩,
    .refl (fun c => le_refl c.tokenVersion) _, False.elim⟩
  refine hinv.holds.of_step fun id hid m info' hlatest => ?_
  obtain ⟨_, ⟨⟩, -⟩ | ⟨hold, -⟩ := latest_finished hlatest
  exact .inr ⟨hid, hold, fun c hc => ⟨c, hc, rfl, rfl, rfl⟩⟩

theorem stepKeeps_upsert_ok {call : OAuthStore.UpsertCall} (hfresh : draw.accountId ∉ w.store.ids)
    (hencryptable : OAuthStore.Encryptable cfg call info)
    (hupToDate : UpToDate w (w.store.accountOfUpsert cfg call info draw).id n) :
    StepKeeps cfg w (w.finished cfg k (.upsert call) n (.ok info) draw) False := by
  obtain ⟨credential, s', p, hcredential, hstored, hremoved⟩ :=
    OAuthStore.finishUpsert_of_ok hinv.keyed draw hencryptable
  have hstore : (w.finished cfg k (.upsert call) n (.ok info) draw).store = s'.removeAccounts p :=
    hremoved
  have hholds := OAuthStore.credentialOfUpsert_holds hcredential
  -- an account that exists and is stored again is the one that was matched
  have hversion : (w.store.accountOfUpsert cfg call info draw).id ∈ w.store.ids →
      ∀ c, w.store.credentials (w.store.accountOfUpsert cfg call info draw).id = some c →
        c.tokenVersion ≤ credential.tokenVersion := by
    intro hmem c hc
    rw [OAuthStore.credentialOfUpsert_version hcredential]
    unfold OAuthStore.accountOfUpsert at hmem hc
    cases hmatched : w.store.matchedAccount cfg call info with
    | none =>
        rw [hmatched] at hmem
        exact absurd hmem hfresh
    | some a =>
        rw [hmatched, Option.map_some, Option.getD_some] at hc
        have hc : w.store.credentials a.id = some c := hc
        rw [Option.bind_some, hc]
        exact le_nextVersion (hinv.versions a.id c hc)
  have hbound : credential.tokenVersion < 2 ^ 64 := by
    rw [OAuthStore.credentialOfUpsert_version hcredential]
    cases (w.store.matchedAccount cfg call info).bind fun a => w.store.credentials a.id with
    | none => decide
    | some old => exact nextVersion_lt _
  refine ⟨⟨?_, ?_, fun id h => known_finished h, ?_, pending_eraseIdx hinv k⟩, ?_, False.elim⟩
  · rw [hstore]
    exact hstored.keyed.removeAccounts p
  · refine hinv.holds.of_step fun id hid m info' hlatest => ?_
    rw [hstore] at hid ⊢
    obtain ⟨hmem, hsame⟩ := OAuthStore.credentials_of_mem_ids_removeAccounts hstored.keyed hid
    rw [hsame, hstored.credentials]
    obtain ⟨_, ⟨⟩, rfl, hnewest⟩ | ⟨hold, hne⟩ := latest_finished hlatest
    · rw [OAuthCall.accountId, newest_of_upToDate hupToDate] at hnewest
      obtain ⟨rfl, rfl⟩ := Prod.mk.inj hnewest
      exact .inl ⟨credential, Function.update_self _ _ _, hholds⟩
    · have hne : id ≠ (w.store.accountOfUpsert cfg call info draw).id := hne info rfl
      refine .inr ⟨(hstored.mem_ids_iff.1 hmem).resolve_left hne, hold,
        fun c hc => ⟨c, ?_, rfl, rfl, rfl⟩⟩
      rw [Function.update_of_ne hne]
      exact hc
  · rw [hstore]
    intro id c hc
    exact versions_of_update hstored.credentials hinv.versions hbound id c
      (OAuthStore.credentials_removeAccounts_eq_some hc)
  · rw [hstore]
    have hrelated : VersionsGrow w.store s' :=
      .of_update (fun c => le_refl c.tokenVersion) hstored.credentials hversion
    intro id hid hid' c c' hc hc'
    obtain ⟨hmem, -⟩ := OAuthStore.credentials_of_mem_ids_removeAccounts hstored.keyed hid'
    exact hrelated id hid hmem c c' hc (OAuthStore.credentials_removeAccounts_eq_some hc')

end Steps

/-! ## Runs -/

theorem stepKeeps (hinv : Inv cfg w) {op : OAuthOp} (hfresh : Fresh w op) (hsafe : Safe cfg w op) :
    StepKeeps cfg w (w.step cfg op) (RefreshSucceeds w op) := by
  cases op with
  | startRefresh accountId force now => exact stepKeeps_startRefresh hinv accountId force now
  | startUpsert req => exact stepKeeps_startUpsert hinv req
  | answer k answer => exact stepKeeps_receive hinv k answer
  | setOauthFamilyEnabled accountId enabled now =>
      exact stepKeeps_setOauthFamilyEnabled hinv accountId enabled now
  | materializeReady record newId now => exact stepKeeps_materializeReady hinv hfresh hsafe
  | finish k draw =>
      rw [step]
      cases hk : w.pending[k]? with
      | none =>
          have hsame : w.finish cfg k draw = w := by
            simp only [finish, hk]
          rw [hsame]
          exact .of_store_eq hinv rfl rfl hinv.pending
      | some p =>
          have hsafe := hsafe p hk
          obtain ⟨call, answer⟩ := p
          cases answer with
          | none =>
              have hsame : w.finish cfg k draw = w := by
                simp only [finish, hk]
              rw [hsame]
              exact .of_store_eq hinv rfl rfl hinv.pending
          | some answer =>
              obtain ⟨n, answer⟩ := answer
              rw [finish_of_pending hk]
              have hsucceeds (h : RefreshSucceeds w (.finish k draw)) :
                  ∃ refresh info, call = .refresh refresh ∧ answer = .ok info := by
                obtain ⟨refresh, m, info, h⟩ := h
                rw [hk] at h
                cases h
                exact ⟨refresh, info, rfl, rfl⟩
              cases call with
              | refresh call =>
                  cases answer with
                  | error err =>
                      refine (stepKeeps_refresh_error hinv hk hsafe).mono fun h => ?_
                      obtain ⟨_, _, -, ⟨⟩⟩ := hsucceeds h
                  | ok info =>
                      by_cases hmem : call.accountId ∈ w.store.ids
                      · exact (stepKeeps_refresh_ok hinv (hsafe hmem)).mono fun _ => trivial
                      · exact (stepKeeps_refresh_gone hinv hmem).mono fun _ => trivial
              | upsert call =>
                  have hnot (h : RefreshSucceeds w (.finish k draw)) : False := by
                    obtain ⟨_, _, ⟨⟩, -⟩ := hsucceeds h
                  cases answer with
                  | error err => exact (stepKeeps_upsert_error hinv).mono hnot
                  | ok info => exact (stepKeeps_upsert_ok hinv hfresh hsafe.1 hsafe.2).mono hnot

theorem inv_init {s : OAuthStore} (hkeyed : s.WellKeyed)
    (hversions : ∀ id c, s.credentials id = some c → c.tokenVersion < 2 ^ 64) :
    Inv cfg (init s) where
  keyed := hkeyed
  holds := by
    rintro id - n info ⟨⟩
  known := by
    intro id h
    exact absurd rfl h
  versions := hversions
  pending := by
    intro p hp
    cases hp

/-- In every run whose steps meet the condition, from any store, every state has the tokens of
the latest answer for each account, no step lowers a version, and a refresh that succeeds leaves
the fallback token. -/
theorem credentials_kept (s : OAuthStore) (hkeyed : s.WellKeyed)
    (hversions : ∀ id c, s.credentials id = some c → c.tokenVersion < 2 ^ 64) (ops : List OAuthOp)
    (hfresh : Machine.Along (step cfg) Fresh (init s) ops)
    (hsafe : Machine.Along (step cfg) (Safe cfg) (init s) ops) :
    Machine.Along (step cfg) (Kept cfg) (init s) ops := by
  have hinit : Inv cfg (init s) := inv_init hkeyed hversions
  refine hfresh.of_invariant (fun w op hinv hfresh hsafe => ?_) hsafe hinit
  have hstep := stepKeeps hinv hfresh hsafe
  exact ⟨hstep.inv, hstep.inv.holds, hstep.versions, hstep.fallbacks⟩

/-! ### A refresh that fails late -/

theorem quietRefresh_safe :
    Machine.Along (step plainConfig) (Safe plainConfig) (init dueStore) quietRefresh := by
  refine ⟨trivial, trivial, ?_, trivial⟩
  rintro p ⟨⟩ -
  refine ⟨⟨plainCipher, rfl, ⟨_, rfl⟩, ⟨_, rfl⟩⟩, ?_, ?_⟩
  · rintro m info ⟨⟩
  · rintro c ⟨⟩
    decide +kernel

theorem quietRefresh_kept :
    Machine.Along (step plainConfig) (Kept plainConfig) (init dueStore) quietRefresh := by
  refine credentials_kept dueStore (List.nodup_singleton _) ?_ quietRefresh ?_ quietRefresh_safe
  · intro id c hc
    simp only [dueStore] at hc
    split_ifs at hc
    obtain rfl := Option.some.inj hc
    decide +kernel
  · have hnew : (⟨"b"⟩ : Uuid) ∉ dueStore.ids := by decide
    exact ⟨trivial, trivial, hnew, trivial⟩

def lateFailure : List OAuthOp :=
  [.startRefresh ⟨"a"⟩ false 0, .startUpsert importB, .answer 1 (.ok (userTokens "token-b2")),
    .finish 1 drawB, .answer 0 (.error (.upstream .upstreamUnavailable "status=503")),
    .finish 0 drawB]

/-- The same account with a fallback token. -/
def fallbackStore : OAuthStore :=
  { dueStore with
    credentials := fun _ =>
      some { plainCredential "token-a" 0 with fallbackAccessTokenEnc := some "fallback" } }

/-- The late failure writes the old tokens back, and a refresh that succeeds drops the fallback
token. -/
theorem lateFailure_not_kept :
    ¬ Machine.Along (step plainConfig) (Kept plainConfig) (init dueStore) lateFailure ∧
      ¬ Machine.Along (step plainConfig) (Kept plainConfig) (init fallbackStore) quietRefresh := by
  constructor
  · rintro ⟨-, -, -, -, -, h, -⟩
    have hstored : ((Machine.run (step plainConfig) (init dueStore) lateFailure).store.credentials
        ⟨"a"⟩).map (·.refreshTokenSha256) = some "sha-token-a" := by decide +kernel
    have hlatest : ((Machine.run (step plainConfig) (init dueStore) lateFailure).latest
        ⟨"a"⟩).map (·.2.refreshToken) = some "token-b2" := by decide +kernel
    obtain ⟨⟨n, info⟩, hinfo, htoken⟩ := Option.map_eq_some_iff.1 hlatest
    obtain ⟨credential, hcredential, hholds⟩ := h.holds ⟨"a"⟩ (by decide +kernel) n info hinfo
    rw [show (Machine.run (step plainConfig) (init dueStore) lateFailure).store.credentials ⟨"a"⟩ =
      some credential from hcredential, Option.map_some, Option.some.injEq,
      hholds.refreshTokenSha256] at hstored
    dsimp only at htoken
    rw [htoken] at hstored
    revert hstored
    decide
  · rintro ⟨-, -, h, -⟩
    have hstay := h.fallbacks ⟨_, _, _, rfl⟩ ⟨"a"⟩ (by decide +kernel) (by decide +kernel) _ _ rfl
      rfl
    exact absurd hstay.1 (by decide +kernel)

end OAuthWorld

end CodexPool
