import CodexPool.ControlPlane.OAuthWorld
import CodexPool.ControlPlane.PgImport

/-!
# Refresh tokens are used once

The upstream exchanges a refresh token for a new one and takes its second use for theft. In the
in-memory store nothing keeps two refreshes of one account apart, and a token that is imported
may be the one that an account holds. In the database an import that finds no account uses its
token twice.
-/

namespace CodexPool

namespace OAuthWorld

variable {cfg : OAuthConfig} {w : OAuthWorld}

/-! ## Tokens that are held -/

/-- The encrypted text is the one of the token. -/
def Decrypts (cfg : OAuthConfig) (enc token : String) : Prop :=
  ∃ cipher, cfg.credentialCipher = some cipher ∧ cipher.decrypt enc = .ok token

/-- An account holds the token. -/
def StoresToken (cfg : OAuthConfig) (w : OAuthWorld) (id : Uuid) (token : String) : Prop :=
  id ∈ w.store.ids ∧ ∃ credential, w.store.credentials id = some credential ∧
    Decrypts cfg credential.refreshTokenEnc token

/-- The token is not among those that calls present or were given. -/
structure OffWire (w : OAuthWorld) (token : String) : Prop where
  exchanged : token ∉ w.exchanged
  presented : ∀ p ∈ w.pending, p.call.refreshToken ≠ token
  brought : ∀ p ∈ w.pending, ∀ n info, p.answer = some (n, .ok info) → info.refreshToken ≠ token

/-- The token has been neither seen nor stored. -/
def Unknown (cfg : OAuthConfig) (w : OAuthWorld) (token : String) : Prop :=
  OffWire w token ∧ ∀ id, ¬ StoresToken cfg w id token

/-! ## The property -/

/-- A call that is answered has not presented a token that was exchanged before, and is not told
so. -/
def PresentedOnce (w : OAuthWorld) : OAuthOp → Prop
  | .answer k answer => ∀ call, w.pending[k]? = some ⟨call, none⟩ →
      call.refreshToken ∉ w.exchanged ∧
        ∀ err, answer = .error err → err.code ≠ .refreshTokenReused
  | _ => True

/-- The upstream rotates tokens: it gives new ones, and tells of a second use only where there is
one. Ids that are drawn are new. -/
def Rotating (cfg : OAuthConfig) (w : OAuthWorld) : OAuthOp → Prop
  | .answer k answer => ∀ call, w.pending[k]? = some ⟨call, none⟩ →
      (∀ info, answer = .ok info → Unknown cfg w info.refreshToken) ∧
        ∀ err, answer = .error err → err.code = .refreshTokenReused →
          call.refreshToken ∈ w.exchanged
  | .finish _ draw => draw.accountId ∉ w.store.ids
  | .materializeReady _ newId _ => newId ∉ w.store.ids
  | _ => True

/-- A refresh starts while no call presents its token; a token that is imported is unknown;
a token that was answered to a refresh can be encrypted; and the token of a ready record is
held by no account but the one that it goes to. -/
def Apart (cfg : OAuthConfig) (w : OAuthWorld) : OAuthOp → Prop
  | .startRefresh accountId force now => ∀ call,
      w.store.startRefresh cfg accountId force now = .ok (some call) →
        ∀ p ∈ w.pending, p.call.refreshToken ≠ call.refreshToken
  | .startUpsert req => Unknown cfg w req.refreshToken
  | .finish k _ => ∀ call n info, w.pending[k]? = some ⟨.refresh call, some (n, .ok info)⟩ →
      call.accountId ∈ w.store.ids → ∃ cipher, cfg.credentialCipher = some cipher ∧
        (∃ enc, cipher.encrypt info.accessToken = .ok enc) ∧
          ∃ enc, cipher.encrypt info.refreshToken = .ok enc
  | .materializeReady record newId _ => ∀ token, Decrypts cfg record.refreshTokenEnc token →
      OffWire w token ∧
        ∀ id, StoresToken cfg w id token → id = w.store.readyAccountId record newId
  | _ => True

/-! ## The invariant -/

/-- Tokens on the wire are told apart, those that were exchanged have been answered, and a token
that an account still holds when it is exchanged is about to be replaced. -/
structure TokenInv (cfg : OAuthConfig) (w : OAuthWorld) : Prop where
  keyed : w.store.WellKeyed
  distinct : (w.pending.map (·.call.refreshToken)).Nodup
  answered : ∀ p ∈ w.pending, p.call.refreshToken ∈ w.exchanged →
    ∃ n info, p.answer = some (n, .ok info)
  reads : ∀ p ∈ w.pending, ∀ call, p.call = .refresh call →
    Decrypts cfg call.credential.refreshTokenEnc call.refreshToken
  stored : ∀ id token, StoresToken cfg w id token → token ∈ w.exchanged →
    ∃ p ∈ w.pending, ∃ call n info, p = ⟨.refresh call, some (n, .ok info)⟩ ∧
      call.accountId = id ∧ call.refreshToken = token
  owner : ∀ id token, StoresToken cfg w id token → ∀ p ∈ w.pending,
    p.call.refreshToken = token → ∃ call, p.call = .refresh call ∧ call.accountId = id
  one : ∀ id id' token, StoresToken cfg w id token → StoresToken cfg w id' token → id = id'
  brought : ∀ p ∈ w.pending, ∀ n info, p.answer = some (n, .ok info) →
    info.refreshToken ∉ w.exchanged ∧ (∀ q ∈ w.pending, q.call.refreshToken ≠ info.refreshToken) ∧
      (∀ id, ¬ StoresToken cfg w id info.refreshToken) ∧
        ∀ q ∈ w.pending, ∀ m info', q.answer = some (m, .ok info') →
          info'.refreshToken = info.refreshToken → q = p

theorem decrypts_unique {enc token token' : String} (h : Decrypts cfg enc token)
    (h' : Decrypts cfg enc token') : token = token' := by
  obtain ⟨cipher, hcipher, h⟩ := h
  obtain ⟨cipher', hcipher', h'⟩ := h'
  obtain rfl := Option.some.inj (hcipher.symm.trans hcipher')
  exact Except.ok.inj (h.symm.trans h')

/-- The store is changed and calls go away. A token is held as before, or it is new to all
others. -/
theorem TokenInv.of_store {w' : OAuthWorld} (h : TokenInv cfg w)
    (hkeyed : w'.store.WellKeyed) (hexchanged : w'.exchanged = w.exchanged)
    (hpending : w'.pending.Sublist w.pending)
    (hstores : ∀ id token, StoresToken cfg w' id token →
      StoresToken cfg w id token ∧ (∀ p ∈ w.pending, p ∉ w'.pending →
          ∀ call n info, p = ⟨.refresh call, some (n, .ok info)⟩ → call.accountId ≠ id) ∨
        OffWire w' token ∧ ∀ id', StoresToken cfg w' id' token → id' = id) :
    TokenInv cfg w' where
  keyed := hkeyed
  distinct := h.distinct.sublist (hpending.map _)
  answered p hp hmem := h.answered p (hpending.subset hp) (hexchanged ▸ hmem)
  reads p hp := h.reads p (hpending.subset hp)
  stored id token hstored hmem := by
    rw [hexchanged] at hmem
    obtain ⟨hold, hgone⟩ | ⟨hwire, -⟩ := hstores id token hstored
    · obtain ⟨p, hp, call, n, info, rfl, hid, htoken⟩ := h.stored id token hold hmem
      refine ⟨_, ?_, call, n, info, rfl, hid, htoken⟩
      by_contra hnot
      exact hgone _ hp hnot call n info rfl hid
    · exact absurd (hexchanged ▸ hmem) hwire.exchanged
  owner id token hstored p hp htoken := by
    obtain ⟨hold, -⟩ | ⟨hwire, -⟩ := hstores id token hstored
    · exact h.owner id token hold p (hpending.subset hp) htoken
    · exact absurd htoken (hwire.presented p hp)
  one id id' token hstored hstored' := by
    obtain ⟨hold, -⟩ | ⟨-, hone⟩ := hstores id token hstored
    · obtain ⟨hold', -⟩ | ⟨-, hone⟩ := hstores id' token hstored'
      · exact h.one id id' token hold hold'
      · exact hone id hstored
    · exact (hone id' hstored').symm
  brought p hp n info hanswer := by
    obtain ⟨hmem, hpresented, hstored, hone⟩ := h.brought p (hpending.subset hp) n info hanswer
    refine ⟨hexchanged ▸ hmem, fun q hq => hpresented q (hpending.subset hq), fun id hid => ?_,
      fun q hq => hone q (hpending.subset hq)⟩
    obtain ⟨hold, -⟩ | ⟨hwire, -⟩ := hstores id _ hid
    · exact hstored id hold
    · exact hwire.brought p hp n info hanswer rfl

/-- A call is sent with a token that no other call has. -/
theorem TokenInv.send {call : OAuthCall} (h : TokenInv cfg w) (hwire : OffWire w call.refreshToken)
    (hreads : ∀ refresh, call = .refresh refresh →
      Decrypts cfg refresh.credential.refreshTokenEnc refresh.refreshToken)
    (howner : ∀ id, StoresToken cfg w id call.refreshToken →
      ∃ refresh, call = .refresh refresh ∧ refresh.accountId = id) :
    TokenInv cfg (w.send call) := by
  have hmem {p : PendingCall} (hp : p ∈ (w.send call).pending) :
      p ∈ w.pending ∨ p = ⟨call, none⟩ := by
    simpa [OAuthWorld.send] using hp
  refine ⟨h.keyed, ?_, ?_, ?_, ?_, ?_, h.one, ?_⟩
  · simp only [OAuthWorld.send, List.map_append, List.map_cons, List.map_nil]
    refine List.nodup_append.2 ⟨h.distinct, List.nodup_singleton _, ?_⟩
    rintro token htoken _ hcall rfl
    obtain ⟨p, hp, htoken⟩ := List.mem_map.1 htoken
    exact hwire.presented p hp (htoken.trans (List.mem_singleton.1 hcall))
  · intro p hp hexchanged
    obtain hp | rfl := hmem hp
    · exact h.answered p hp hexchanged
    · exact absurd hexchanged hwire.exchanged
  · intro p hp refresh hrefresh
    obtain hp | rfl := hmem hp
    · exact h.reads p hp refresh hrefresh
    · exact hreads refresh hrefresh
  · intro id token hstored hexchanged
    obtain ⟨p, hp, hrest⟩ := h.stored id token hstored hexchanged
    exact ⟨p, List.mem_append_left _ hp, hrest⟩
  · intro id token hstored p hp htoken
    obtain hp | rfl := hmem hp
    · exact h.owner id token hstored p hp htoken
    · subst htoken
      exact howner id hstored
  · intro p hp n info hanswer
    obtain hp | rfl := hmem hp
    · obtain ⟨hexchanged, hpresented, hstored, hone⟩ := h.brought p hp n info hanswer
      refine ⟨hexchanged, fun q hq => ?_, hstored, fun q hq m info' hanswer' => ?_⟩
      · obtain hq | rfl := hmem hq
        · exact hpresented q hq
        · exact (hwire.brought p hp n info hanswer).symm
      · obtain hq | rfl := hmem hq
        · exact hone q hq m info' hanswer'
        · cases hanswer'
    · cases hanswer

theorem TokenInv.presentedOnce {k : Nat} {call : OAuthCall} (h : TokenInv cfg w)
    (hk : w.pending[k]? = some ⟨call, none⟩) : call.refreshToken ∉ w.exchanged := by
  intro hexchanged
  obtain ⟨n, info, ⟨⟩⟩ := h.answered _ (List.mem_of_getElem? hk) hexchanged

theorem mem_set_of_ne {α : Type*} {l : List α} {k : Nat} {a b c : α} (hk : l[k]? = some a)
    (hb : b ∈ l) (hne : b ≠ a) : b ∈ l.set k c := by
  obtain ⟨i, hi⟩ := List.mem_iff_getElem?.1 hb
  refine List.mem_iff_getElem?.2 ⟨i, ?_⟩
  have hik : k ≠ i := by
    rintro rfl
    exact hne (Option.some.inj (hi.symm.trans hk))
  rw [List.getElem?_set_ne hik]
  exact hi

theorem map_set_of_getElem? {α β : Type*} {l : List α} {k : Nat} {a b : α} {f : α → β}
    (hk : l[k]? = some a) (hf : f b = f a) : (l.set k b).map f = l.map f := by
  refine List.ext_getElem? fun i => ?_
  rw [List.getElem?_map, List.getElem?_map]
  by_cases hik : k = i
  · subst hik
    rw [List.getElem?_set_self (List.getElem?_eq_some_iff.1 hk).1, hk, Option.map_some,
      Option.map_some, hf]
  · rw [List.getElem?_set_ne hik]

theorem mem_exchanged_of_answer {exchanged : List String} {answer : RefreshAnswer}
    {token refreshToken : String} :
    (token ∈ match answer with
      | .ok _ => refreshToken :: exchanged
      | .error _ => exchanged) ↔
        token ∈ exchanged ∨ (∃ info, answer = .ok info) ∧ token = refreshToken := by
  cases answer with
  | error err => simp
  | ok info => simp [or_comm]

theorem TokenInv.receive {k : Nat} {answer : RefreshAnswer} (h : TokenInv cfg w)
    (hrotating : Rotating cfg w (.answer k answer)) : TokenInv cfg (w.receive k answer) := by
  unfold OAuthWorld.receive
  split
  case h_2 => exact h
  rename_i call hk
  have hfirst := h.presentedOnce hk
  have hat := List.mem_of_getElem? hk
  obtain ⟨hnew, -⟩ := hrotating call hk
  let now : PendingCall := ⟨call, some (w.answered, answer)⟩
  have hmem {q : PendingCall} (hq : q ∈ w.pending.set k now) : q ∈ w.pending ∨ q = now :=
    List.mem_or_eq_of_mem_set hq
  have hnow : now ∈ w.pending.set k now := List.mem_set (List.getElem?_eq_some_iff.1 hk).1 now
  have hdistinct : ((w.pending.set k now).map (·.call.refreshToken)).Nodup := by
    have hmap : (w.pending.set k now).map (·.call.refreshToken) =
        w.pending.map (·.call.refreshToken) := map_set_of_getElem? hk rfl
    rw [hmap]
    exact h.distinct
  refine ⟨h.keyed, hdistinct, ?_, ?_, ?_, ?_, h.one, ?_⟩
  · intro q hq htoken
    obtain hold | ⟨⟨info, rfl⟩, heq⟩ := mem_exchanged_of_answer.1 htoken
    · obtain hq | rfl := hmem hq
      · exact h.answered q hq hold
      · exact absurd hold hfirst
    · obtain rfl := List.inj_on_of_nodup_map hdistinct hq hnow heq
      exact ⟨w.answered, info, rfl⟩
  · intro q hq refresh hrefresh
    obtain hq | rfl := hmem hq
    · exact h.reads q hq refresh hrefresh
    · exact h.reads ⟨call, none⟩ hat refresh hrefresh
  · intro id token hstored htoken
    obtain htoken | ⟨⟨info, rfl⟩, rfl⟩ := mem_exchanged_of_answer.1 htoken
    · obtain ⟨q, hq, refresh, n, info, rfl, hrest⟩ := h.stored id token hstored htoken
      refine ⟨_, mem_set_of_ne hk hq ?_, refresh, n, info, rfl, hrest⟩
      rintro ⟨⟩
    · obtain ⟨refresh, hrefresh, hid⟩ := h.owner id _ hstored _ hat rfl
      dsimp only at hrefresh
      subst hrefresh
      exact ⟨now, hnow, refresh, w.answered, info, rfl, hid, rfl⟩
  · intro id token hstored q hq htoken
    obtain hq | rfl := hmem hq
    · exact h.owner id token hstored q hq htoken
    · exact h.owner id token hstored ⟨call, none⟩ hat htoken
  · intro q hq n info hanswer
    obtain hold | rfl := hmem hq
    · obtain ⟨hex, hpresented, hstored, hone⟩ := h.brought q hold n info hanswer
      refine ⟨fun hmem' => ?_, fun q' hq' => ?_, hstored, fun q' hq' m info' hanswer' heq => ?_⟩
      · obtain hmem' | ⟨-, hmem'⟩ := mem_exchanged_of_answer.1 hmem'
        · exact hex hmem'
        · exact hpresented ⟨call, none⟩ hat hmem'.symm
      · obtain hq' | rfl := hmem hq'
        · exact hpresented q' hq'
        · exact hpresented ⟨call, none⟩ hat
      · obtain hq' | rfl := hmem hq'
        · exact hone q' hq' m info' hanswer' heq
        · obtain ⟨-, rfl⟩ := Prod.mk.inj (Option.some.inj hanswer')
          exact absurd heq.symm ((hnew info' rfl).1.brought q hold n info hanswer)
    · obtain ⟨-, rfl⟩ := Prod.mk.inj (Option.some.inj hanswer)
      obtain ⟨hwire, hstored⟩ := hnew info rfl
      refine ⟨fun hmem' => ?_, fun q' hq' => ?_, hstored, fun q' hq' m info' hanswer' heq => ?_⟩
      · obtain hmem' | ⟨-, hmem'⟩ := (@mem_exchanged_of_answer _ (.ok info) _ _).1 hmem'
        · exact hwire.exchanged hmem'
        · exact hwire.presented ⟨call, none⟩ hat hmem'.symm
      · obtain hq' | rfl := hmem hq'
        · exact hwire.presented q' hq'
        · exact hwire.presented ⟨call, none⟩ hat
      · obtain hq' | rfl := hmem hq'
        · exact absurd heq (hwire.brought q' hq' m info' hanswer')
        · rfl

/-! ### Changes of the store -/

def RoundTrips (cfg : OAuthConfig) : Prop :=
  ∀ cipher, cfg.credentialCipher = some cipher → ∀ text enc, cipher.encrypt text = .ok enc →
    cipher.decrypt enc = .ok text

theorem decrypts_of_holdsTokens (hcipher : RoundTrips cfg) {info : OAuthTokenInfo}
    {credential : OAuthCredentialRecord} (h : OAuthStore.HoldsTokens cfg info credential) :
    Decrypts cfg credential.refreshTokenEnc info.refreshToken := by
  obtain ⟨-, cipher, hsome, -, hrefresh⟩ := h
  exact ⟨cipher, hsome, hcipher cipher hsome _ _ hrefresh⟩

theorem ne_of_mem_eraseIdx {α β : Type*} {l : List α} {k : Nat} {a b : α} {f : α → β}
    (hnd : (l.map f).Nodup) (hk : l[k]? = some a) (hb : b ∈ l.eraseIdx k) : f b ≠ f a := by
  obtain ⟨i, hik, hi⟩ := List.mem_eraseIdx_iff_getElem?.1 hb
  intro heq
  refine hik ((List.getElem?_inj ?_ hnd).1 ?_)
  · rw [List.length_map]
    exact (List.getElem?_eq_some_iff.1 hi).1
  · rw [List.getElem?_map, List.getElem?_map, hi, hk, Option.map_some, Option.map_some, heq]

theorem mem_eraseIdx_of_ne {α : Type*} {l : List α} {k : Nat} {a b : α} (hk : l[k]? = some a)
    (hb : b ∈ l) (hne : b ≠ a) : b ∈ l.eraseIdx k := by
  obtain ⟨i, hi⟩ := List.mem_iff_getElem?.1 hb
  refine List.mem_eraseIdx_iff_getElem?.2 ⟨i, ?_, hi⟩
  rintro rfl
  exact hne (Option.some.inj (hi.symm.trans hk))

theorem storesToken_of_update {s' : OAuthStore} {accountId : Uuid}
    {credential : OAuthCredentialRecord} {id : Uuid} {token : String} {w' : OAuthWorld}
    (hstore : w'.store = s') (hids : ∀ id ∈ s'.ids, id ≠ accountId → id ∈ w.store.ids)
    (hcredentials : ∀ id ∈ s'.ids,
      s'.credentials id = Function.update w.store.credentials accountId (some credential) id)
    (h : StoresToken cfg w' id token) :
    id ≠ accountId ∧ StoresToken cfg w id token ∨
      id = accountId ∧ Decrypts cfg credential.refreshTokenEnc token := by
  obtain ⟨hid, c, hc, hdecrypts⟩ := h
  rw [hstore] at hid hc
  rw [hcredentials id hid] at hc
  by_cases heq : id = accountId
  · subst heq
    rw [Function.update_self] at hc
    obtain rfl := Option.some.inj hc
    exact .inr ⟨rfl, hdecrypts⟩
  · rw [Function.update_of_ne heq] at hc
    exact .inl ⟨heq, hids id hid heq, c, hc, hdecrypts⟩

section Steps

variable (h : TokenInv cfg w)

include h

theorem tokenInv_setOauthFamilyEnabled (accountId : Uuid) (enabled : Bool) (now : DateTime) :
    TokenInv cfg (w.setOauthFamilyEnabled accountId enabled now) := by
  unfold setOauthFamilyEnabled
  split
  · rename_i store hstore
    obtain ⟨f, hf, hkeeps⟩ := OAuthStore.setOauthFamilyEnabledInner_eq_ok hstore
    refine h.of_store (hkeeps.wellKeyed h.keyed) rfl (List.Sublist.refl _) ?_
    rintro id token ⟨hid, c', hc', hdecrypts⟩
    refine .inl ⟨⟨hkeeps.ids ▸ hid, ?_⟩, fun p hp hnot => absurd hp hnot⟩
    rw [hkeeps.credentials] at hc'
    obtain ⟨c, hc, rfl⟩ := Option.map_eq_some_iff.1 hc'
    refine ⟨c, hc, ?_⟩
    obtain heq | heq := hf c
    · rw [heq] at hdecrypts
      exact hdecrypts
    · rw [heq] at hdecrypts
      exact hdecrypts
  · exact h

theorem tokenInv_materializeReady {record : OAuthRefreshTokenVaultRecord} {newId : Uuid}
    {now : DateTime} (hapart : Apart cfg w (.materializeReady record newId now)) :
    TokenInv cfg (w.materializeReady cfg record newId now) := by
  unfold materializeReady
  split
  · rename_i account store hstore
    obtain ⟨credential, profile, -, henc, -, hid, hstored⟩ :=
      OAuthStore.materializeReady_stored h.keyed hstore
    dsimp only at hid hstored
    have hcases {id : Uuid} {token : String}
        (hstores : StoresToken cfg { w with store } id token) :=
      storesToken_of_update (w := w) rfl
        (fun id hmem hne => (hstored.mem_ids_iff.1 hmem).resolve_left hne)
        (fun id _ => congrFun hstored.credentials id) hstores
    refine h.of_store hstored.keyed rfl (List.Sublist.refl _) fun id token hstores => ?_
    obtain ⟨-, hold⟩ | ⟨rfl, hdecrypts⟩ := hcases hstores
    · exact .inl ⟨hold, fun p hp hnot => absurd hp hnot⟩
    · rw [henc] at hdecrypts
      obtain ⟨hwire, hone⟩ := hapart token hdecrypts
      refine .inr ⟨⟨hwire.exchanged, hwire.presented, hwire.brought⟩, fun id' hstores' => ?_⟩
      obtain ⟨-, hold⟩ | ⟨rfl, -⟩ := hcases hstores'
      · rw [hid]
        exact hone id' hold
      · rfl
  · exact h

theorem tokenInv_finished {k n : Nat} {call : OAuthCall} {answer : RefreshAnswer}
    {draw : OAuthStore.UpsertDraw} (hk : w.pending[k]? = some ⟨call, some (n, answer)⟩)
    (hkeyed : (w.finished cfg k call n answer draw).store.WellKeyed)
    (hstores : ∀ id token, StoresToken cfg (w.finished cfg k call n answer draw) id token →
      StoresToken cfg w id token ∧
          (∀ refresh info, call = .refresh refresh → answer = .ok info → refresh.accountId ≠ id) ∨
        OffWire (w.finished cfg k call n answer draw) token ∧ ∀ id',
          StoresToken cfg (w.finished cfg k call n answer draw) id' token → id' = id) :
    TokenInv cfg (w.finished cfg k call n answer draw) := by
  refine h.of_store hkeyed rfl (List.eraseIdx_sublist _ _) fun id token hstored => ?_
  refine (hstores id token hstored).imp_left fun ⟨hold, hother⟩ => ⟨hold, ?_⟩
  rintro p hp hnot refresh m info rfl
  by_cases heq : (⟨.refresh refresh, some (m, .ok info)⟩ : PendingCall) = ⟨call, some (n, answer)⟩
  · obtain ⟨rfl, hanswer⟩ := PendingCall.mk.inj heq
    obtain ⟨-, rfl⟩ := Prod.mk.inj (Option.some.inj hanswer)
    exact hother refresh info rfl rfl
  · exact absurd (mem_eraseIdx_of_ne hk hp heq) hnot

theorem offWire_of_brought {k n : Nat} {call : OAuthCall} {info : OAuthTokenInfo}
    (draw : OAuthStore.UpsertDraw) (hk : w.pending[k]? = some ⟨call, some (n, .ok info)⟩) :
    OffWire (w.finished cfg k call n (.ok info) draw) info.refreshToken ∧
      ∀ id, ¬ StoresToken cfg w id info.refreshToken := by
  obtain ⟨hexchanged, hpresented, hstored, hone⟩ :=
    h.brought _ (List.mem_of_getElem? hk) n info rfl
  refine ⟨⟨hexchanged, fun q hq => hpresented q (List.mem_of_mem_eraseIdx hq),
    fun q hq m info' hanswer heq => ?_⟩, hstored⟩
  have hsame := hone q (List.mem_of_mem_eraseIdx hq) m info' hanswer heq
  exact ne_of_mem_eraseIdx h.distinct hk hq (congrArg (·.call.refreshToken) hsame)

theorem tokenInv_refresh_error {k n : Nat} {call : OAuthStore.RefreshCall}
    {err : OAuthTokenClientError} {draw : OAuthStore.UpsertDraw}
    (hk : w.pending[k]? = some ⟨.refresh call, some (n, .error err)⟩) :
    TokenInv cfg (w.finished cfg k (.refresh call) n (.error err) draw) := by
  obtain ⟨s', hs', hkeeps⟩ :=
    OAuthStore.finishRefresh_of_error cfg w.store call err draw.familyId draw.now
  have hat := List.mem_of_getElem? hk
  have hstore : (w.finished cfg k (.refresh call) n (.error err) draw).store = s' := by
    simp only [finished, OAuthCall.finish, hs']
  have hcases {id : Uuid} {token : String}
      (hstores : StoresToken cfg (w.finished cfg k (.refresh call) n (.error err) draw) id token) :=
    storesToken_of_update hstore (fun id hmem _ => hkeeps.ids ▸ hmem)
      (fun id _ => congrFun hkeeps.credentials id) hstores
  have hkeyed := hkeeps.wellKeyed h.keyed
  rw [← hstore] at hkeyed
  refine tokenInv_finished h hk hkeyed fun id token hstores => ?_
  obtain ⟨-, hold⟩ | ⟨rfl, hdecrypts⟩ := hcases hstores
  · refine .inl ⟨hold, ?_⟩
    rintro _ _ - ⟨⟩
  -- the token that the refresh has presented, in vain, is written back
  · obtain rfl : call.refreshToken = token := decrypts_unique (h.reads _ hat call rfl) hdecrypts
    refine .inr ⟨⟨fun hexchanged => ?_, fun q hq => ?_, fun q hq m info hanswer => ?_⟩, ?_⟩
    · obtain ⟨_, _, ⟨⟩⟩ := h.answered _ hat hexchanged
    · exact ne_of_mem_eraseIdx h.distinct hk hq
    · have hne := (h.brought q (List.mem_of_mem_eraseIdx hq) m info hanswer).2.1 _ hat
      exact hne.symm
    · intro id' hstores'
      obtain ⟨-, hold⟩ | ⟨rfl, -⟩ := hcases hstores'
      · obtain ⟨_, ⟨⟩, hid⟩ := h.owner id' _ hold _ hat rfl
        exact hid.symm
      · rfl

theorem tokenInv_refresh_ok (hcipher : RoundTrips cfg) {k n : Nat} {call : OAuthStore.RefreshCall}
    {info : OAuthTokenInfo} {draw : OAuthStore.UpsertDraw}
    (hk : w.pending[k]? = some ⟨.refresh call, some (n, .ok info)⟩)
    (hencrypts : call.accountId ∈ w.store.ids → ∃ cipher, cfg.credentialCipher = some cipher ∧
      (∃ enc, cipher.encrypt info.accessToken = .ok enc) ∧
        ∃ enc, cipher.encrypt info.refreshToken = .ok enc) :
    TokenInv cfg (w.finished cfg k (.refresh call) n (.ok info) draw) := by
  cases hfinish : w.store.finishRefresh cfg call (.ok info) draw.familyId draw.now with
  | error e =>
      have hstore : (w.finished cfg k (.refresh call) n (.ok info) draw).store = w.store := by
        simp only [finished, OAuthCall.finish, hfinish]
      have hkeyed := h.keyed
      rw [← hstore] at hkeyed
      refine tokenInv_finished h hk hkeyed fun id token hstores => ?_
      obtain ⟨hid, hrest⟩ := hstores
      rw [hstore] at hid hrest
      refine .inl ⟨⟨hid, hrest⟩, ?_⟩
      rintro _ _ ⟨⟩ - rfl
      obtain ⟨cipher, hsome, haccess, hrefresh⟩ := hencrypts hid
      obtain ⟨s', hs'⟩ := OAuthStore.finishRefresh_ok_of_encrypts w.store call draw.familyId
        draw.now hsome haccess hrefresh
      rw [hfinish] at hs'
      cases hs'
  | ok s' =>
      obtain ⟨credential, hholds, -, -, -, hkeeps⟩ := OAuthStore.finishRefresh_of_ok hfinish
      have hstore : (w.finished cfg k (.refresh call) n (.ok info) draw).store = s' := by
        simp only [finished, OAuthCall.finish, hfinish]
      have hcases {id : Uuid} {token : String}
          (hstores : StoresToken cfg (w.finished cfg k (.refresh call) n (.ok info) draw) id
            token) :=
        storesToken_of_update hstore (fun id hmem _ => hkeeps.ids ▸ hmem)
          (fun id _ => congrFun hkeeps.credentials id) hstores
      obtain ⟨hwire, hnone⟩ := offWire_of_brought h draw hk
      have hkeyed := hkeeps.wellKeyed h.keyed
      rw [← hstore] at hkeyed
      refine tokenInv_finished h hk hkeyed fun id token hstores => ?_
      obtain ⟨hne, hold⟩ | ⟨rfl, hdecrypts⟩ := hcases hstores
      · refine .inl ⟨hold, ?_⟩
        rintro _ _ ⟨⟩ - rfl
        exact hne rfl
      · obtain rfl := decrypts_unique (decrypts_of_holdsTokens hcipher hholds) hdecrypts
        refine .inr ⟨hwire, fun id' hstores' => ?_⟩
        obtain ⟨-, hold⟩ | ⟨rfl, -⟩ := hcases hstores'
        · exact absurd hold (hnone id')
        · rfl

theorem tokenInv_upsert_error {k n : Nat} {call : OAuthStore.UpsertCall}
    {err : OAuthTokenClientError} {draw : OAuthStore.UpsertDraw}
    (hk : w.pending[k]? = some ⟨.upsert call, some (n, .error err)⟩) :
    TokenInv cfg (w.finished cfg k (.upsert call) n (.error err) draw) := by
  refine tokenInv_finished h hk h.keyed fun id token hstores => .inl ⟨hstores, ?_⟩
  rintro _ _ ⟨⟩

theorem tokenInv_upsert_ok (hcipher : RoundTrips cfg) {k n : Nat} {call : OAuthStore.UpsertCall}
    {info : OAuthTokenInfo} {draw : OAuthStore.UpsertDraw}
    (hk : w.pending[k]? = some ⟨.upsert call, some (n, .ok info)⟩) :
    TokenInv cfg (w.finished cfg k (.upsert call) n (.ok info) draw) := by
  by_cases hencryptable : OAuthStore.Encryptable cfg call info
  · obtain ⟨credential, s', p, hcredential, hstored, hremoved⟩ :=
      OAuthStore.finishUpsert_of_ok h.keyed draw hencryptable
    have hstore : (w.finished cfg k (.upsert call) n (.ok info) draw).store =
        s'.removeAccounts p := hremoved
    have hholds := OAuthStore.credentialOfUpsert_holds hcredential
    have hremain {id : Uuid} (hid : id ∈ (s'.removeAccounts p).ids) :=
      OAuthStore.credentials_of_mem_ids_removeAccounts hstored.keyed hid
    have hcases {id : Uuid} {token : String}
        (hstores : StoresToken cfg (w.finished cfg k (.upsert call) n (.ok info) draw) id token) :=
      storesToken_of_update hstore
        (fun id hmem hne => (hstored.mem_ids_iff.1 (hremain hmem).1).resolve_left hne)
        (fun id hmem => (hremain hmem).2.trans (congrFun hstored.credentials id)) hstores
    obtain ⟨hwire, hnone⟩ := offWire_of_brought h draw hk
    have hkeyed := hstored.keyed.removeAccounts p
    rw [← hstore] at hkeyed
    refine tokenInv_finished h hk hkeyed fun id token hstores => ?_
    obtain ⟨-, hold⟩ | ⟨rfl, hdecrypts⟩ := hcases hstores
    · refine .inl ⟨hold, ?_⟩
      rintro _ _ ⟨⟩
    · obtain rfl := decrypts_unique (decrypts_of_holdsTokens hcipher hholds) hdecrypts
      refine .inr ⟨hwire, fun id' hstores' => ?_⟩
      obtain ⟨-, hold⟩ | ⟨rfl, -⟩ := hcases hstores'
      · exact absurd hold (hnone id')
      · rfl
  · have hkeeps := OAuthStore.finishUpsert_of_not_encryptable h.keyed draw hencryptable
    refine tokenInv_finished h hk (hkeeps.wellKeyed h.keyed) fun id token hstores => .inl ⟨?_, ?_⟩
    · obtain ⟨hid, c, hc, hdecrypts⟩ := hstores
      exact ⟨hkeeps.ids ▸ hid, c, hkeeps.credentials ▸ hc, hdecrypts⟩
    · rintro _ _ ⟨⟩

end Steps

/-! ## Runs on the in-memory store -/

theorem tokenInv_startRefresh (h : TokenInv cfg w) {accountId : Uuid} {force : Bool}
    {now : DateTime} (hapart : Apart cfg w (.startRefresh accountId force now)) :
    TokenInv cfg (w.startRefresh cfg accountId force now) := by
  unfold startRefresh
  split
  · rename_i call hcall
    obtain ⟨hid, ⟨a, ha⟩, hcredential, hdecrypts⟩ := OAuthStore.startRefresh_eq_some hcall
    have hmem : accountId ∈ w.store.ids := by
      obtain ⟨hmem, hid⟩ := (OAuthStore.account?_eq_some_iff h.keyed).1 ha
      exact hid ▸ OAuthStore.mem_ids hmem
    have hstored : StoresToken cfg w accountId call.refreshToken :=
      ⟨hmem, _, hcredential, hdecrypts⟩
    have hapart := hapart call hcall
    refine h.send ⟨fun hexchanged => ?_, hapart, fun p hp n info hanswer heq => ?_⟩ ?_ ?_
    · obtain ⟨p, hp, refresh, _, _, rfl, -, htoken⟩ := h.stored _ _ hstored hexchanged
      exact hapart _ hp htoken
    · exact (h.brought p hp n info hanswer).2.2.1 accountId (heq.symm ▸ hstored)
    · rintro _ ⟨⟩
      exact hdecrypts
    · intro id hstored'
      exact ⟨call, rfl, hid.trans (h.one _ _ _ hstored hstored')⟩
  · exact h

theorem tokenInv_startUpsert (h : TokenInv cfg w) {req : ImportOAuthRefreshTokenRequest}
    (hapart : Apart cfg w (.startUpsert req)) : TokenInv cfg (w.startUpsert cfg req) := by
  unfold startUpsert
  split
  · rename_i call hcall
    have hreq : call.req = req := by
      simp only [OAuthStore.startUpsert, Result.bind_eq_ok, pure, Except.pure,
        Except.ok.injEq] at hcall
      obtain ⟨_, -, rfl⟩ := hcall
      rfl
    obtain ⟨hwire, hstored⟩ := hapart
    rw [← hreq] at hwire hstored
    refine h.send hwire ?_ fun id hid => absurd hid (hstored id)
    rintro _ ⟨⟩
  · exact h

theorem tokenInv_step (hcipher : RoundTrips cfg) (h : TokenInv cfg w) {op : OAuthOp}
    (hrotating : Rotating cfg w op) (hapart : Apart cfg w op) : TokenInv cfg (w.step cfg op) := by
  cases op with
  | startRefresh accountId force now => exact tokenInv_startRefresh h hapart
  | startUpsert req => exact tokenInv_startUpsert h hapart
  | answer k answer => exact h.receive hrotating
  | setOauthFamilyEnabled accountId enabled now =>
      exact tokenInv_setOauthFamilyEnabled h accountId enabled now
  | materializeReady record newId now => exact tokenInv_materializeReady h hapart
  | finish k draw =>
      rw [step]
      cases hk : w.pending[k]? with
      | none =>
          have hsame : w.finish cfg k draw = w := by
            simp only [finish, hk]
          rw [hsame]
          exact h
      | some p =>
          obtain ⟨call, answer⟩ := p
          cases answer with
          | none =>
              have hsame : w.finish cfg k draw = w := by
                simp only [finish, hk]
              rw [hsame]
              exact h
          | some answer =>
              obtain ⟨n, answer⟩ := answer
              rw [finish_of_pending hk]
              cases call with
              | refresh call =>
                  cases answer with
                  | error err => exact tokenInv_refresh_error h hk
                  | ok info => exact tokenInv_refresh_ok h hcipher hk (hapart call n info hk)
              | upsert call =>
                  cases answer with
                  | error err => exact tokenInv_upsert_error h hk
                  | ok info => exact tokenInv_upsert_ok h hcipher hk

theorem presentedOnce_of_tokenInv (h : TokenInv cfg w) {op : OAuthOp}
    (hrotating : Rotating cfg w op) : PresentedOnce w op := by
  cases op with
  | answer k answer =>
      intro call hk
      have hfirst := h.presentedOnce hk
      exact ⟨hfirst, fun err herr hcode => hfirst ((hrotating call hk).2 err herr hcode)⟩
  | startRefresh accountId force now => trivial
  | startUpsert req => trivial
  | finish k draw => trivial
  | setOauthFamilyEnabled accountId enabled now => trivial
  | materializeReady record newId now => trivial

/-- No two accounts hold one token. -/
def DistinctTokens (cfg : OAuthConfig) (s : OAuthStore) : Prop :=
  ∀ id id' token, StoresToken cfg (init s) id token → StoresToken cfg (init s) id' token → id = id'

theorem tokenInv_init {s : OAuthStore} (hkeyed : s.WellKeyed) (hdistinct : DistinctTokens cfg s) :
    TokenInv cfg (init s) where
  keyed := hkeyed
  distinct := List.nodup_nil
  answered := by
    intro p hp
    cases hp
  reads := by
    intro p hp
    cases hp
  stored := by
    intro id token _ hexchanged
    cases hexchanged
  owner := by
    intro id token _ p hp
    cases hp
  one := hdistinct
  brought := by
    intro p hp
    cases hp

theorem presentedOnce_along (hcipher : RoundTrips cfg) {s : OAuthStore} (hkeyed : s.WellKeyed)
    (hdistinct : DistinctTokens cfg s) {ops : List OAuthOp}
    (hrotating : Machine.Along (step cfg) (Rotating cfg) (init s) ops)
    (hapart : Machine.Along (step cfg) (Apart cfg) (init s) ops) :
    Machine.Along (step cfg) PresentedOnce (init s) ops := by
  refine hrotating.of_invariant (fun w op h hrotating hapart => ?_) hapart
    (tokenInv_init hkeyed hdistinct)
  exact ⟨tokenInv_step hcipher h hrotating hapart, presentedOnce_of_tokenInv h hrotating⟩

end OAuthWorld

/-! ## Imports into the database -/

/-- An import that waits for the upstream: for its first answer, or for the second once it has
the first. -/
structure PgPendingImport where
  call : OAuthStore.UpsertCall
  first : Option OAuthTokenInfo
  answer : Option RefreshAnswer

/-- The database with the imports that wait and the tokens that were exchanged. -/
structure PgTokenWorld where
  db : PgImportDb
  pending : List PgPendingImport
  exchanged : List String

inductive PgTokenOp where
  | start (req : ImportOAuthRefreshTokenRequest)
  | answer (k : Nat) (answer : RefreshAnswer)
  | goOn (k : Nat) (draw : OAuthStore.UpsertDraw)

namespace PgTokenWorld

variable (cfg : OAuthConfig) (schedule : RefreshSchedule) (w : PgTokenWorld)

def init (db : PgImportDb) : PgTokenWorld := ⟨db, [], []⟩

def start (req : ImportOAuthRefreshTokenRequest) : PgTokenWorld :=
  match OAuthStore.startUpsert cfg req with
  | .ok call => { w with pending := w.pending ++ [⟨call, none, none⟩] }
  | .error _ => w

def receive (k : Nat) (answer : RefreshAnswer) : PgTokenWorld :=
  match w.pending[k]? with
  | some ⟨call, first, none⟩ =>
    { w with
      pending := w.pending.set k ⟨call, first, some answer⟩
      exchanged := match answer with
        | .ok _ => call.req.refreshToken :: w.exchanged
        | .error _ => w.exchanged }
  | _ => w

/-- The import goes on: it updates the account that it belongs to, asks a second time when there
is none, or inserts an account. -/
def goOn (k : Nat) (draw : OAuthStore.UpsertDraw) : PgTokenWorld :=
  match w.pending[k]? with
  | some ⟨call, none, some (.ok info)⟩ =>
    match w.db.matchedRow cfg call info with
    | some old =>
      { w with
        db := (w.db.storeRow call info (PgImportDb.updatedRow cfg schedule call info draw old)).2
        pending := w.pending.eraseIdx k }
    | none => { w with pending := w.pending.set k ⟨call, some info, none⟩ }
  | some ⟨call, some first, some (.ok info)⟩ =>
    { w with
      db := (w.db.storeRow call first (PgImportDb.insertedRow cfg schedule call info draw)).2
      pending := w.pending.eraseIdx k }
  | some ⟨_, _, some (.error _)⟩ => { w with pending := w.pending.eraseIdx k }
  | _ => w

def step (w : PgTokenWorld) : PgTokenOp → PgTokenWorld
  | .start req => w.start cfg req
  | .answer k answer => w.receive k answer
  | .goOn k draw => w.goOn cfg schedule k draw

def PresentedOnce (w : PgTokenWorld) : PgTokenOp → Prop
  | .answer k answer => ∀ call first, w.pending[k]? = some ⟨call, first, none⟩ →
      call.req.refreshToken ∉ w.exchanged ∧
        ∀ err, answer = .error err → err.code ≠ .refreshTokenReused
  | _ => True

/-- The upstream tells of a second use only where there is one. -/
def Rotating (w : PgTokenWorld) : PgTokenOp → Prop
  | .answer k answer => ∀ call first, w.pending[k]? = some ⟨call, first, none⟩ →
      ∀ err, answer = .error err → err.code = .refreshTokenReused →
        call.req.refreshToken ∈ w.exchanged
  | _ => True

/-- A token that is imported is neither exchanged nor under way, and an import whose first
answer is a success finds an account to update. -/
def Apart (cfg : OAuthConfig) (w : PgTokenWorld) : PgTokenOp → Prop
  | .start req => req.refreshToken ∉ w.exchanged ∧
      ∀ p ∈ w.pending, p.call.req.refreshToken ≠ req.refreshToken
  | .goOn k _ => ∀ call info, w.pending[k]? = some ⟨call, none, some (.ok info)⟩ →
      (w.db.matchedRow cfg call info).isSome = true
  | _ => True

structure TokenInv (w : PgTokenWorld) : Prop where
  distinct : (w.pending.map (·.call.req.refreshToken)).Nodup
  answered : ∀ p ∈ w.pending, p.call.req.refreshToken ∈ w.exchanged →
    ∃ info, p.answer = some (.ok info)

variable {cfg schedule w}

theorem TokenInv.presentedOnce {k : Nat} {call : OAuthStore.UpsertCall}
    {first : Option OAuthTokenInfo} (h : TokenInv w)
    (hk : w.pending[k]? = some ⟨call, first, none⟩) : call.req.refreshToken ∉ w.exchanged := by
  intro hexchanged
  obtain ⟨info, ⟨⟩⟩ := h.answered _ (List.mem_of_getElem? hk) hexchanged

theorem tokenInv_eraseIdx (h : TokenInv w) (db : PgImportDb) (k : Nat) :
    TokenInv { w with db, pending := w.pending.eraseIdx k } where
  distinct := h.distinct.sublist ((List.eraseIdx_sublist _ _).map _)
  answered p hp := h.answered p (List.mem_of_mem_eraseIdx hp)

theorem tokenInv_start (h : TokenInv w) {req : ImportOAuthRefreshTokenRequest}
    (hapart : Apart cfg w (.start req)) : TokenInv (w.start cfg req) := by
  unfold start
  split
  · rename_i call hcall
    have hreq : call.req = req := by
      simp only [OAuthStore.startUpsert, Result.bind_eq_ok, pure, Except.pure,
        Except.ok.injEq] at hcall
      obtain ⟨_, -, rfl⟩ := hcall
      rfl
    obtain ⟨hexchanged, hpending⟩ := hapart
    rw [← hreq] at hexchanged hpending
    constructor
    · simp only [List.map_append, List.map_cons, List.map_nil]
      refine List.nodup_append.2 ⟨h.distinct, List.nodup_singleton _, ?_⟩
      rintro token htoken _ hcall rfl
      obtain ⟨p, hp, htoken⟩ := List.mem_map.1 htoken
      exact hpending p hp (htoken.trans (List.mem_singleton.1 hcall))
    · intro p hp hmem
      obtain hp | hp := List.mem_append.1 hp
      · exact h.answered p hp hmem
      · obtain rfl := List.mem_singleton.1 hp
        exact absurd hmem hexchanged
  · exact h

theorem tokenInv_receive (h : TokenInv w) (k : Nat) (answer : RefreshAnswer) :
    TokenInv (w.receive k answer) := by
  unfold receive
  split
  case h_2 => exact h
  rename_i call first hk
  have hfirst := h.presentedOnce hk
  let now : PgPendingImport := ⟨call, first, some answer⟩
  have hnow : now ∈ w.pending.set k now := List.mem_set (List.getElem?_eq_some_iff.1 hk).1 now
  have hdistinct : ((w.pending.set k now).map (·.call.req.refreshToken)).Nodup := by
    have hmap : (w.pending.set k now).map (·.call.req.refreshToken) =
        w.pending.map (·.call.req.refreshToken) := OAuthWorld.map_set_of_getElem? hk rfl
    rw [hmap]
    exact h.distinct
  refine ⟨hdistinct, fun p hp hexchanged => ?_⟩
  have hold (hmem : p.call.req.refreshToken ∈ w.exchanged) :
      ∃ info, p.answer = some (.ok info) := by
    obtain hp | rfl := List.mem_or_eq_of_mem_set hp
    · exact h.answered p hp hmem
    · exact absurd hmem hfirst
  cases answer with
  | error err => exact hold hexchanged
  | ok info =>
      obtain heq | hmem := List.mem_cons.1 hexchanged
      · obtain rfl := List.inj_on_of_nodup_map hdistinct hp hnow heq
        exact ⟨info, rfl⟩
      · exact hold hmem

theorem tokenInv_step (h : TokenInv w) {op : PgTokenOp} (hapart : Apart cfg w op) :
    TokenInv (w.step cfg schedule op) := by
  cases op with
  | start req => exact tokenInv_start h hapart
  | answer k answer => exact tokenInv_receive h k answer
  | goOn k draw =>
      rw [step, goOn]
      split
      · rename_i call info hk
        have hfound := hapart call info hk
        cases hmatched : w.db.matchedRow cfg call info with
        | none =>
            rw [hmatched] at hfound
            cases hfound
        | some old => exact tokenInv_eraseIdx h _ k
      · exact tokenInv_eraseIdx h _ k
      · exact tokenInv_eraseIdx h _ k
      · exact h

theorem presentedOnce_along {db : PgImportDb} {ops : List PgTokenOp}
    (hrotating : Machine.Along (step cfg schedule) Rotating (init db) ops)
    (hapart : Machine.Along (step cfg schedule) (Apart cfg) (init db) ops) :
    Machine.Along (step cfg schedule) PresentedOnce (init db) ops := by
  have hinit : TokenInv (init db) := ⟨List.nodup_nil, fun p hp => by cases hp⟩
  refine hrotating.of_invariant (fun w op h hrotating hapart => ?_) hapart hinit
  refine ⟨tokenInv_step h hapart, ?_⟩
  cases op with
  | answer k answer =>
      intro call first hk
      have hfirst := h.presentedOnce hk
      exact ⟨hfirst, fun err herr hcode => hfirst (hrotating call first hk err herr hcode)⟩
  | start req => trivial
  | goOn k draw => trivial

end PgTokenWorld

/-! ## Both stores -/

/-- With an upstream that rotates tokens, no token is presented after a call with it has
succeeded, and no call is told so, in any run on either store whose steps keep their tokens
apart. A refresh in the database presents no token at all. -/
theorem tokens_presented_once (cfg : OAuthConfig) (schedule : RefreshSchedule)
    (hcipher : OAuthWorld.RoundTrips cfg) (s : OAuthStore) (hkeyed : s.WellKeyed)
    (hdistinct : OAuthWorld.DistinctTokens cfg s) (ops : List OAuthOp)
    (hrotating : Machine.Along (OAuthWorld.step cfg) (OAuthWorld.Rotating cfg) (.init s) ops)
    (hapart : Machine.Along (OAuthWorld.step cfg) (OAuthWorld.Apart cfg) (.init s) ops)
    (db : PgImportDb) (pgOps : List PgTokenOp)
    (hrotating' : Machine.Along (PgTokenWorld.step cfg schedule) PgTokenWorld.Rotating (.init db)
      pgOps)
    (hapart' : Machine.Along (PgTokenWorld.step cfg schedule) (PgTokenWorld.Apart cfg) (.init db)
      pgOps) :
    Machine.Along (OAuthWorld.step cfg) OAuthWorld.PresentedOnce (.init s) ops ∧
      Machine.Along (PgTokenWorld.step cfg schedule) PgTokenWorld.PresentedOnce (.init db) pgOps ∧
      ∀ (tables : PgOAuthDb) accountId force now upstream finished,
        (tables.refreshOauthAccountInner cfg schedule accountId force now upstream
          finished).presented = [] :=
  ⟨OAuthWorld.presentedOnce_along hcipher hkeyed hdistinct hrotating hapart,
    PgTokenWorld.presentedOnce_along hrotating' hapart',
    fun tables accountId force now upstream finished =>
      tables.refresh_presents_nothing cfg schedule accountId force now upstream finished⟩

/-! ### Tokens that are presented twice -/

open OAuthWorld

theorem dueStore_distinct : DistinctTokens plainConfig dueStore := by
  intro id id' token hid hid'
  rw [List.mem_singleton.1 hid.1, List.mem_singleton.1 hid'.1]

theorem plainConfig_roundTrips : RoundTrips plainConfig := by
  rintro _ ⟨⟩ text enc henc
  obtain rfl : text = enc := Except.ok.inj henc
  rfl

theorem unknown_of_dueStore {w : OAuthWorld} (hstore : w.store = dueStore)
    (hexchanged : w.exchanged = [])
    (hpending : ∀ p ∈ w.pending, p.call.refreshToken = "token-a" ∧ p.answer = none) :
    Unknown plainConfig w "token-a2" := by
  refine ⟨⟨?_, fun p hp h => ?_, fun p hp n info h => ?_⟩, ?_⟩
  · rw [hexchanged]
    exact List.not_mem_nil
  · rw [(hpending p hp).1] at h
    revert h
    decide
  · rw [(hpending p hp).2] at h
    cases h
  · rintro id ⟨hid, credential, hcredential, hdecrypts⟩
    rw [hstore] at hid hcredential
    obtain rfl : id = ⟨"a"⟩ := List.mem_singleton.1 hid
    obtain rfl : plainCredential "token-a" 0 = credential := Option.some.inj hcredential
    obtain ⟨_, ⟨⟩, h⟩ := hdecrypts
    revert h
    decide

/-- A database with the account of the user. -/
def importedDb : PgImportDb where
  rows := [{
    account := workspaceAccount "b" "workspace" 0
    authProvider := .oauthRefreshToken
    poolState := .active
    credential := none
    profile := some (.fromOauthTokenInfo (userTokens "token-b") .refreshRotatable none none, 0) }]
  keyed := List.nodup_singleton _

def repeatedImport : List PgTokenOp :=
  [.start importB, .answer 0 (.ok (userTokens "token-b2")), .goOn 0 drawB,
    .start { importB with refreshToken := "token-b2" }, .answer 0 (.ok (userTokens "token-b3")),
    .goOn 0 drawB]

theorem repeatedImport_rotating :
    Machine.Along (PgTokenWorld.step plainConfig ⟨fun _ => 0, fun _ => Int.le_refl 0⟩)
      PgTokenWorld.Rotating (.init importedDb) repeatedImport := by
  refine ⟨trivial, ?_, trivial, trivial, ?_, trivial, trivial⟩
  · rintro call first - err ⟨⟩
  · rintro call first - err ⟨⟩

theorem repeatedImport_apart :
    Machine.Along (PgTokenWorld.step plainConfig ⟨fun _ => 0, fun _ => Int.le_refl 0⟩)
      (PgTokenWorld.Apart plainConfig) (.init importedDb) repeatedImport := by
  refine ⟨⟨?_, ?_⟩, trivial, ?_, ⟨?_, ?_⟩, trivial, ?_, trivial⟩
  · rintro ⟨⟩
  · rintro p ⟨⟩
  · rintro call info ⟨⟩
    decide +kernel
  · decide +kernel
  · rintro p ⟨⟩
  · rintro call info ⟨⟩
    decide +kernel

theorem quietRefresh_rotating :
    Machine.Along (OAuthWorld.step plainConfig) (OAuthWorld.Rotating plainConfig) (init dueStore)
      quietRefresh := by
  have hnew : (⟨"b"⟩ : Uuid) ∉ dueStore.ids := by decide
  refine ⟨trivial, fun call _ => ⟨?_, ?_⟩, hnew, trivial⟩
  · rintro info ⟨⟩
    refine unknown_of_dueStore rfl rfl fun p hp => ?_
    obtain rfl := List.mem_singleton.1 hp
    exact ⟨rfl, rfl⟩
  · rintro err ⟨⟩

theorem quietRefresh_apart :
    Machine.Along (OAuthWorld.step plainConfig) (OAuthWorld.Apart plainConfig) (init dueStore)
      quietRefresh := by
  refine ⟨?_, trivial, ?_, trivial⟩
  · rintro call - p ⟨⟩
  · rintro call n info ⟨⟩ -
    exact ⟨plainCipher, rfl, ⟨_, rfl⟩, ⟨_, rfl⟩⟩

theorem quietRefresh_presented_once :
    Machine.Along (OAuthWorld.step plainConfig) OAuthWorld.PresentedOnce (init dueStore)
        quietRefresh ∧
      Machine.Along (PgTokenWorld.step plainConfig ⟨fun _ => 0, fun _ => Int.le_refl 0⟩)
        PgTokenWorld.PresentedOnce (.init importedDb) repeatedImport := by
  obtain ⟨hmemory, hdatabase, -⟩ := tokens_presented_once plainConfig
    ⟨fun _ => 0, fun _ => Int.le_refl 0⟩ plainConfig_roundTrips dueStore (List.nodup_singleton _)
    dueStore_distinct quietRefresh quietRefresh_rotating quietRefresh_apart importedDb
    repeatedImport repeatedImport_rotating repeatedImport_apart
  exact ⟨hmemory, hdatabase⟩

def reused : RefreshAnswer := .error (.invalidRefreshToken .refreshTokenReused "status=401")

/-- Two refreshes of one account overlap. -/
def overlappingRefreshes : List OAuthOp :=
  [.startRefresh ⟨"a"⟩ false 0, .startRefresh ⟨"a"⟩ false 0,
    .answer 0 (.ok (userTokens "token-a2")),
    .answer 1 reused]

/-- The first import of an account. -/
def firstImport : List PgTokenOp :=
  [.start importB, .answer 0 (.ok (userTokens "token-b2")), .goOn 0 drawB, .answer 0 reused]

theorem overlappingRefreshes_rotating :
    Machine.Along (OAuthWorld.step plainConfig) (OAuthWorld.Rotating plainConfig) (init dueStore)
      overlappingRefreshes := by
  refine ⟨trivial, trivial, fun call _ => ⟨?_, ?_⟩, ?_, trivial⟩
  · rintro info ⟨⟩
    refine unknown_of_dueStore rfl rfl fun p hp => ?_
    obtain hp | hp := List.mem_cons.1 hp
    · rw [hp]
      exact ⟨rfl, rfl⟩
    · rw [List.mem_singleton.1 hp]
      exact ⟨rfl, rfl⟩
  · rintro err ⟨⟩
  · rintro call ⟨⟩
    refine ⟨?_, fun _ _ _ => by decide +kernel⟩
    rintro info ⟨⟩

theorem firstImport_rotating :
    Machine.Along (PgTokenWorld.step plainConfig ⟨fun _ => 0, fun _ => Int.le_refl 0⟩)
      PgTokenWorld.Rotating (.init ⟨[], List.nodup_nil⟩) firstImport := by
  refine ⟨trivial, ?_, trivial, ?_, trivial⟩
  · rintro call first - err ⟨⟩
  · rintro call first ⟨⟩ err - -
    decide +kernel

/-- Two refreshes that overlap present one token, and so does the first import of an account into
the database, of which the upstream rightly tells the second. -/
theorem not_presented_once :
    (Machine.Along (OAuthWorld.step plainConfig) (OAuthWorld.Rotating plainConfig) (init dueStore)
          overlappingRefreshes ∧
        ¬ Machine.Along (OAuthWorld.step plainConfig) OAuthWorld.PresentedOnce (init dueStore)
          overlappingRefreshes) ∧
      Machine.Along (PgTokenWorld.step plainConfig ⟨fun _ => 0, fun _ => Int.le_refl 0⟩)
          PgTokenWorld.Rotating (.init ⟨[], List.nodup_nil⟩) firstImport ∧
        ¬ Machine.Along (PgTokenWorld.step plainConfig ⟨fun _ => 0, fun _ => Int.le_refl 0⟩)
          PgTokenWorld.PresentedOnce (.init ⟨[], List.nodup_nil⟩) firstImport := by
  refine ⟨⟨overlappingRefreshes_rotating, ?_⟩, firstImport_rotating, ?_⟩
  · rintro ⟨-, -, -, h, -⟩
    exact (h _ rfl).1 (by decide +kernel)
  · rintro ⟨-, -, -, h, -⟩
    exact (h _ _ rfl).1 (by decide +kernel)

end CodexPool
