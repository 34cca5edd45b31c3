import CodexPool.ControlPlane.Operation
import CodexPool.Lib.ChangeLog

/-!
# The outbox is a log of the changes

Every transaction names in the outbox the accounts whose loaded value it changes, and
appends a refresh when it changes the rest of the configuration. So the outbox is a
change log of both, in the sense of `ChangeLog.Logs`, over every history of the store.
-/

namespace CodexPool

open Keyed ChangeLog

/-- What an event says of an account. -/
def accountChange (event : DataPlaneSnapshotEventType × Uuid) (id : Uuid) : Option Change :=
  match event.1 with
  | .accountUpsert => if event.2 = id then some .put else none
  | .accountDelete => if event.2 = id then some .drop else none
  | .routingPlanRefresh => none

/-- What an event says of the rest of the configuration. -/
def configChange (event : DataPlaneSnapshotEventType × Uuid) (_ : Unit) : Option Change :=
  if event.1 = .routingPlanRefresh then some .put else none

@[simp] theorem accountChange_upsertEvent (accountId id : Uuid) :
    accountChange (upsertEvent accountId) id =
      if accountId = id then some .put else none := rfl

@[simp] theorem accountChange_deleteEvent (accountId id : Uuid) :
    accountChange (deleteEvent accountId) id =
      if accountId = id then some .drop else none := rfl

@[simp] theorem accountChange_refreshEvent (id : Uuid) :
    accountChange refreshEvent id = none := rfl

section Accounts

variable (cfg : StoreConfig) (now : DateTime)

/-- An account as an event carries it, up to a token that is not used. -/
def AccountTable.view (t : AccountTable) (id : Uuid) : Option UpstreamAccount :=
  (t.loadSnapshotAccountById cfg now id).map UpstreamAccount.withoutIdleToken

namespace AccountTable

variable {cfg now} {t t' : AccountTable}

variable {id accountId : Uuid} {row : AccountRow}

theorem id_of_find (h : t.find id = some row) : row.id = id :=
  key_of_lookupBy h

theorem mem_of_find (h : t.find id = some row) :
    row ∈ t.rows :=
  List.mem_of_find?_eq_some h

theorem view_congr (h : t'.find id = t.find id) :
    t'.view cfg now id = t.view cfg now id := by
  unfold view loadSnapshotAccountById
  rw [h]

theorem view_eq_none (h : t.find id = none) : t.view cfg now id = none := by
  unfold view loadSnapshotAccountById
  rw [h]
  rfl

theorem view_update {p : AccountRow → Bool} {g : AccountRow → AccountRow}
    {hg : ∀ row, (g row).id = row.id} {id : Uuid}
    (h : ∀ row, t.find id = some row → p row = true →
      (g row).poolState = row.poolState ∧
        (g row).eventAccount now cfg.credentialCipher =
          row.eventAccount now cfg.credentialCipher) :
    (t.update p g hg).view cfg now id = t.view cfg now id := by
  unfold view loadSnapshotAccountById
  rw [find_update]
  cases hfind : t.find id with
  | none => rfl
  | some row =>
      rw [Option.map_some]
      by_cases hp : p row = true
      · obtain ⟨hpool, haccount⟩ := h row hfind hp
        rw [if_pos hp, Option.filter_some, Option.filter_some, hpool]
        by_cases hactive : row.poolState = .active <;> simp [hactive, haccount]
      · rw [if_neg hp]

theorem find_update_of_ne {g : AccountRow → AccountRow} {hg : ∀ row, (g row).id = row.id}
    {accountId id : Uuid} (h : accountId ≠ id) :
    (t.update (·.id = accountId) g hg).find id = t.find id := by
  rw [find_update]
  cases hfind : t.find id with
  | none => rfl
  | some row =>
      have hne : row.id ≠ accountId := fun e => h ((id_of_find hfind ▸ e).symm)
      simp [hne]

variable {accountIds : List Uuid}

theorem find_deleteAll_of_mem (h : id ∈ accountIds) :
    (t.deleteAll accountIds).find id = none := by
  unfold deleteAll
  induction accountIds generalizing t with
  | nil => cases h
  | cons a accountIds ih =>
      rw [List.foldl_cons]
      by_cases hmem : id ∈ accountIds
      · exact ih hmem
      · have hid : id = a := (List.mem_cons.1 h).resolve_right hmem
        have hrest := (t.delete a).find_deleteAll_of_not_mem hmem
        rw [deleteAll] at hrest
        rw [hrest, find_delete, hid]
        exact Function.update_self _ _ _

variable {events : Events}

theorem logs_of_put (hput : ∀ e ∈ events, e.1 ≠ .accountDelete)
    (hview : ∀ id, (∀ e ∈ events, accountChange e id = none) →
      t'.view cfg now id = t.view cfg now id) :
    Logs accountChange (t.view cfg now) (t'.view cfg now) events where
  unchanged id hlast := hview id (lastChange_eq_none_iff.1 hlast)
  dropped id hlast := by
    obtain ⟨e, he, hchange⟩ := exists_of_lastChange hlast
    refine absurd ?_ (hput e he)
    unfold accountChange at hchange
    cases htype : e.1 <;> simp [htype] at hchange ⊢

theorem logs_of_upsert
    (hput : ∀ e ∈ events, e.1 ≠ .accountDelete) (hmem : upsertEvent accountId ∈ events)
    (hfind : ∀ id, accountId ≠ id → t'.find id = t.find id) :
    Logs accountChange (t.view cfg now) (t'.view cfg now) events := by
  refine logs_of_put hput fun id hnone => ?_
  have hne : accountId ≠ id := fun e => by simpa [e] using hnone _ hmem
  exact view_congr (hfind id hne)

theorem logs_put (row : AccountRow) :
    Logs accountChange (t.view cfg now) ((t.put row).view cfg now) [upsertEvent row.id] := by
  refine logs_of_upsert (by simp [upsertEvent]) (List.mem_singleton_self _) fun id hne => ?_
  rw [find_put]
  exact Function.update_of_ne (Ne.symm hne) _ _

theorem eventAccount_clear_reused (h : row.authProvider ≠ .oauthRefreshToken)
    (cipher : Option (String → Option String)) :
    ({ row with
      credential := row.credential.map fun credential =>
        { credential with refreshReusedDetected := false } } : AccountRow).eventAccount now cipher =
      row.eventAccount now cipher := by
  obtain ⟨_, _, mode, _, _, _, provider, _, _, _, _, credential, _, _, _⟩ := row
  cases provider with
  | oauthRefreshToken => exact absurd rfl h
  | legacyBearer => cases credential <;> cases mode <;> rfl

theorem fst_ne_of_mem_map_upsertEvent
    {e : DataPlaneSnapshotEventType × Uuid} (h : e ∈ accountIds.map upsertEvent) :
    e.1 ≠ .accountDelete := by
  obtain ⟨a, -, rfl⟩ := List.mem_map.1 h
  exact fun h => by cases h

theorem upsertEvent_mem {p : AccountRow → Bool} (hrow : t.find id = some row) (hp : p row = true) :
    upsertEvent id ∈ ((t.rows.filter p).map (·.id)).map upsertEvent :=
  List.mem_map_of_mem (id_of_find hrow ▸
    List.mem_map_of_mem (List.mem_filter.2 ⟨mem_of_find hrow, hp⟩))

theorem logs_setOauthFamilyEnabledInner {enabled : Bool}
    (h : t.setOauthFamilyEnabledInner accountId enabled = some (t', events)) :
    Logs accountChange (t.view cfg now) (t'.view cfg now) events := by
  unfold setOauthFamilyEnabledInner at h
  split at h
  · cases h
  · rename_i account _
    dsimp only at h
    split at h
    · cases h
    · obtain ⟨rfl, rfl⟩ := Prod.mk.inj (Option.some.inj h)
      generalize account.credential.bind (·.tokenFamilyId) = family
      refine logs_of_put (fun _ => fst_ne_of_mem_map_upsertEvent) fun id hnone => ?_
      have hunaffected : ∀ row, t.find id = some row → inOauthFamily family row ≠ true := by
        intro row hrow haff
        simpa using hnone _ (upsertEvent_mem hrow haff)
      have hflagged : (t.setFamilyFlag family enabled).find id = t.find id := by
        unfold setFamilyFlag
        rw [find_update]
        cases hrow : t.find id with
        | none => rfl
        | some row => rw [Option.map_some, if_neg (hunaffected row hrow)]
      split
      · refine (view_update fun row hrow hfamily => ?_).trans (view_congr hflagged)
        rw [hflagged] at hrow
        have hprovider : row.authProvider ≠ .oauthRefreshToken := fun e =>
          hunaffected row hrow (by simp [inOauthFamily, hfamily, e])
        exact ⟨rfl, eventAccount_clear_reused hprovider _⟩
      · exact view_congr hflagged

theorem logs_persistOauthRefreshFailure {errorCode : String}
    (h : t.persistOauthRefreshFailure accountId errorCode = some (t', events)) :
    Logs accountChange (t.view cfg now) (t'.view cfg now) events := by
  unfold persistOauthRefreshFailure at h
  split at h
  · cases h
  · rename_i credential _
    dsimp only at h
    split at h
    · obtain ⟨rfl, rfl⟩ := Prod.mk.inj (Option.some.inj h)
      refine logs_of_put ?_ fun id hnone => ?_
      · intro e he
        rcases List.mem_append.1 he with he | he
        · exact fst_ne_of_mem_map_upsertEvent he
        · rw [List.mem_singleton.1 he]
          exact fun h => by cases h
      · have hne : accountId ≠ id := fun e => by
          simpa [e] using hnone _ (List.mem_append_right _ (List.mem_singleton_self _))
        refine (view_update fun row hrow hfamily => ?_).trans
          (view_congr (find_update_of_ne hne))
        have hevent := upsertEvent_mem hrow hfamily
        exact absurd (hnone _ (List.mem_append_left _ hevent)) (by simp)
    · obtain ⟨rfl, rfl⟩ := Prod.mk.inj (Option.some.inj h)
      exact logs_of_upsert (by simp [upsertEvent]) (by simp) fun id hne =>
        find_update_of_ne hne

theorem logs_removeAccounts (h : t.removeAccounts accountIds = some (t', events)) :
    Logs accountChange (t.view cfg now) (t'.view cfg now) events := by
  unfold removeAccounts at h
  dsimp only at h
  split at h
  · cases h
  · set deleted := accountIds.filter fun id => (t.find id).isSome
    obtain ⟨rfl, rfl⟩ := Prod.mk.inj (Option.some.inj h)
    constructor
    · intro id hlast
      have hmem : id ∉ deleted := fun hid => by
        simpa using lastChange_eq_none_iff.1 hlast _ (List.mem_map_of_mem (f := deleteEvent) hid)
      exact view_congr (t.find_deleteAll_of_not_mem hmem)
    · intro id hlast
      obtain ⟨e, he, hchange⟩ := exists_of_lastChange hlast
      obtain ⟨a, ha, rfl⟩ := List.mem_map.1 he
      have hid : a = id := by
        by_contra hne
        simp [hne] at hchange
      exact view_eq_none (find_deleteAll_of_mem (hid ▸ ha))

/-- Every change of an account is named in the events of its transaction. -/
theorem logs_apply {op : AccountOperation} (h : t.apply cfg op = some (t', events)) :
    Logs accountChange (t.view cfg now) (t'.view cfg now) events := by
  cases op with
  | insertUpstreamAccount id createdAt req =>
      simp only [apply, insertUpstreamAccount] at h
      split at h
      · cases h
      · obtain ⟨rfl, rfl⟩ := Prod.mk.inj (Option.some.inj h)
        exact logs_put _
  | setUpstreamAccountEnabled accountId enabled =>
      simp only [apply, setUpstreamAccountEnabledInner] at h
      split at h
      · cases h
      · obtain ⟨rfl, rfl⟩ := Prod.mk.inj (Option.some.inj h)
        exact logs_of_upsert (by simp [upsertEvent]) (by simp) fun _ => find_update_of_ne
  | deleteUpstreamAccount accountId =>
      simp only [apply, deleteUpstreamAccountInner] at h
      split at h
      · cases h
      · obtain ⟨rfl, rfl⟩ := Prod.mk.inj (Option.some.inj h)
        constructor
        · intro id hlast
          rw [lastChange_singleton, accountChange_deleteEvent] at hlast
          have hne : accountId ≠ id := fun e => by simp [e] at hlast
          refine view_congr ?_
          rw [find_delete]
          exact Function.update_of_ne (Ne.symm hne) _ _
        · intro id hlast
          rw [lastChange_singleton, accountChange_deleteEvent] at hlast
          have hid : accountId = id := by
            by_contra hne
            simp [hne] at hlast
          refine view_eq_none ?_
          rw [find_delete, hid]
          exact Function.update_self _ _ _
  | importAccount row =>
      obtain ⟨rfl, rfl⟩ := Prod.mk.inj (Option.some.inj h)
      exact logs_put row
  | removeAccounts accountIds => exact logs_removeAccounts h
  | setOauthFamilyEnabled accountId enabled => exact logs_setOauthFamilyEnabledInner h
  | persistOauthRefreshSuccess accountId accessTokenEnc expiresAt chatgptAccountId profile =>
      simp only [apply, persistOauthRefreshSuccess] at h
      split at h
      · cases h
      · obtain ⟨rfl, rfl⟩ := Prod.mk.inj (Option.some.inj h)
        exact logs_of_upsert (by simp [upsertEvent]) (by simp) fun _ => find_update_of_ne
  | persistOauthRefreshFailure accountId errorCode => exact logs_persistOauthRefreshFailure h
  | persistRateLimitCacheSuccess accountId rateLimit chatgptPlanType =>
      simp only [apply, persistRateLimitCacheSuccess] at h
      split at h
      · cases h
      · obtain ⟨rfl, rfl⟩ := Prod.mk.inj (Option.some.inj h)
        exact logs_of_upsert (by simp [upsertEvent, refreshEvent]) (by simp)
          fun _ => find_update_of_ne
  | persistRateLimitCacheFailure accountId expiresAt errorCode errorMessage =>
      simp only [apply, persistRateLimitCacheFailure] at h
      split at h
      · cases h
      · obtain ⟨rfl, rfl⟩ := Prod.mk.inj (Option.some.inj h)
        exact logs_of_upsert (by simp [upsertEvent, refreshEvent]) (by simp)
          fun _ => find_update_of_ne
  | recordAccountModelSupport accountId supportedModels =>
      -- the models of an account are no part of what an event carries of it
      simp only [apply, recordAccountModelSupportInner] at h
      split at h
      · cases h
      · obtain ⟨rfl, rfl⟩ := Prod.mk.inj (Option.some.inj h)
        exact logs_of_put (by simp [refreshEvent]) fun id _ =>
          view_update fun row _ _ => ⟨rfl, rfl⟩

end AccountTable

end Accounts

/-! ## Histories of the store -/

def OutboxRow.event (row : OutboxRow) : DataPlaneSnapshotEventType × Uuid :=
  (row.eventType, row.accountId)

namespace Database

variable (cfg : StoreConfig) (now : DateTime)

theorem map_event_newRows (sequence : Nat) (events : Events) :
    (newRows sequence events).map OutboxRow.event = events := by
  apply List.ext_getElem
  · simp [newRows]
  · intro i _ _
    simp [newRows, OutboxRow.event]

/-- The accounts of a database as events carry them. -/
def accountView (db : Database) :
    Uuid → Option UpstreamAccount :=
  db.tables.accounts.view cfg now

/-- The rest of the configuration, as a table with one row. -/
def configView (db : Database) (_ : Unit) : Option ConfigTables := some db.tables.config

/-- The events of a step account for what it changes. -/
theorem step_logs (db : Database) (op : StoreOperation) :
    ∃ events, (db.step cfg op).outbox = db.outbox ++ newRows db.outboxSequence events ∧
      db.outboxSequence ≤ (db.step cfg op).outboxSequence ∧
      Logs accountChange (db.accountView cfg now) ((db.step cfg op).accountView cfg now)
        events ∧
      Logs configChange db.configView (db.step cfg op).configView events := by
  have hsilent : ∀ db' : Database, db'.outbox = db.outbox →
      db'.outboxSequence = db.outboxSequence → db'.tables.accounts = db.tables.accounts →
      db'.tables.config = db.tables.config →
      ∃ events, db'.outbox = db.outbox ++ newRows db.outboxSequence events ∧
        db.outboxSequence ≤ db'.outboxSequence ∧
        Logs accountChange (db.accountView cfg now) (db'.accountView cfg now) events ∧
        Logs configChange db.configView db'.configView events := by
    intro db' houtbox hsequence haccounts hconfig
    refine ⟨[], by simp [houtbox, newRows], hsequence.ge, ?_, ?_⟩
    · unfold accountView
      rw [haccounts]
      exact Logs.nil
    · unfold configView
      rw [hconfig]
      exact Logs.nil
  cases op with
  | account op =>
      simp only [step]
      cases happly : db.tables.accounts.apply cfg op with
      | none => exact hsilent db rfl rfl rfl rfl
      | some result =>
          refine ⟨result.2, rfl, Nat.le_add_right _ _, AccountTable.logs_apply happly, ?_⟩
          refine ⟨fun _ _ => rfl, fun _ hlast => ?_⟩
          obtain ⟨event, -, hchange⟩ := exists_of_lastChange hlast
          simp [configChange] at hchange
  | config op =>
      simp only [step]
      cases happly : db.tables.config.apply op with
      | none => exact hsilent db rfl rfl rfl rfl
      | some config =>
          refine ⟨[refreshEvent], rfl, Nat.le_add_right _ _, ⟨fun _ _ => rfl, ?_⟩, ?_, ?_⟩
          · intro k hlast
            rw [lastChange_singleton] at hlast
            cases hlast
          · intro k hlast
            rw [lastChange_singleton] at hlast
            cases hlast
          · intro k hlast
            rw [lastChange_singleton] at hlast
            cases hlast
  | publishCurrentRoutingPlanVersion versionId publishedAt reason =>
      simp only [step, publishCurrentRoutingPlanVersionInner]
      split
      · exact hsilent db rfl rfl rfl rfl
      · exact hsilent _ rfl rfl rfl rfl
  | bumpRevision => exact hsilent _ rfl rfl rfl rfl
  | flushSnapshotRevision =>
      simp only [step]
      split
      · exact hsilent _ rfl rfl rfl rfl
      · exact hsilent db rfl rfl rfl rfl

theorem run_outbox (db : Database) (ops : List StoreOperation) :
    ∃ rows, (Machine.run (step cfg) db ops).outbox = db.outbox ++ rows ∧
      ∀ row ∈ rows, db.outboxSequence < row.id := by
  have hstep : ∀ (db' : Database) (op : StoreOperation),
      (db.outboxSequence ≤ db'.outboxSequence ∧
        ∃ rows, db'.outbox = db.outbox ++ rows ∧ ∀ row ∈ rows, db.outboxSequence < row.id) →
      db.outboxSequence ≤ (db'.step cfg op).outboxSequence ∧
        ∃ rows, (db'.step cfg op).outbox = db.outbox ++ rows ∧
          ∀ row ∈ rows, db.outboxSequence < row.id := by
    rintro db' op ⟨hle, rows, houtbox, hrows⟩
    obtain ⟨events, hstep, hsequence, -⟩ := db'.step_logs cfg 0 op
    refine ⟨hle.trans hsequence, rows ++ newRows db'.outboxSequence events, ?_, ?_⟩
    · rw [hstep, houtbox, List.append_assoc]
    · intro row hrow
      rcases List.mem_append.1 hrow with hrow | hrow
      · exact hrows row hrow
      · exact hle.trans_lt (newRows_id hrow).1
  exact (Machine.run_invariant hstep ⟨le_rfl, [], by simp, by simp⟩ ops).2

theorem dataPlaneOutboxCursorInner_le (db : Database) :
    db.dataPlaneOutboxCursorInner ≤ db.outboxSequence := by
  unfold dataPlaneOutboxCursorInner
  cases hmax : (db.outbox.map (·.id)).max? with
  | none => exact Nat.zero_le _
  | some id =>
      obtain ⟨row, hrow, rfl⟩ := List.mem_map.1 (List.max?_mem hmax)
      exact db.outbox_le row hrow

theorem id_le_dataPlaneOutboxCursorInner (db : Database) {row : OutboxRow}
    (h : row ∈ db.outbox) : row.id ≤ db.dataPlaneOutboxCursorInner := by
  unfold dataPlaneOutboxCursorInner
  have hmem : row.id ∈ db.outbox.map (·.id) := List.mem_map_of_mem h
  cases hmax : (db.outbox.map (·.id)).max? with
  | none =>
      rw [List.max?_eq_none_iff] at hmax
      rw [hmax] at hmem
      cases hmem
  | some id => exact (List.max?_eq_some_iff.1 hmax).2 _ hmem

theorem outbox_run (db : Database) (ops : List StoreOperation) :
    (Machine.run (step cfg) db ops).outbox =
      db.outbox ++ (Machine.run (step cfg) db ops).rowsAfter db.dataPlaneOutboxCursorInner := by
  obtain ⟨new, houtbox, hnew⟩ := db.run_outbox cfg ops
  unfold rowsAfter
  rw [houtbox, List.filter_append, List.filter_eq_nil_iff.2, List.nil_append,
    List.filter_eq_self.2]
  · intro row hrow
    exact decide_eq_true (db.dataPlaneOutboxCursorInner_le.trans_lt (hnew row hrow))
  · intro row hrow
    simpa using db.id_le_dataPlaneOutboxCursorInner hrow

theorem rowsAfter_logs (db : Database) (ops : List StoreOperation) :
    let db' := Machine.run (step cfg) db ops
    let rows := db'.rowsAfter db.dataPlaneOutboxCursorInner
    Logs (fun row => accountChange row.event) (db.accountView cfg now)
        (db'.accountView cfg now) rows ∧
      Logs (fun row => configChange row.event) db.configView db'.configView rows := by
  intro db' rows
  have houtbox : db'.outbox = db.outbox ++ rows := db.outbox_run cfg ops
  obtain ⟨rows₁, houtbox₁, haccounts⟩ := Logs.run (step cfg) (accountView cfg now) outbox
    (fun db op => by
      obtain ⟨events, hstep, -, hlogs, -⟩ := db.step_logs cfg now op
      exact ⟨_, hstep, Logs.comap ((map_event_newRows _ events).symm ▸ hlogs)⟩) db ops
  obtain ⟨rows₂, houtbox₂, hconfig⟩ := Logs.run (step cfg) configView outbox
    (fun db op => by
      obtain ⟨events, hstep, -, -, hlogs⟩ := db.step_logs cfg now op
      exact ⟨_, hstep, Logs.comap ((map_event_newRows _ events).symm ▸ hlogs)⟩) db ops
  have h₁ : rows₁ = rows := List.append_cancel_left (houtbox₁.symm.trans houtbox)
  have h₂ : rows₂ = rows := List.append_cancel_left (houtbox₂.symm.trans houtbox)
  exact ⟨h₁ ▸ haccounts, h₂ ▸ hconfig⟩

/-! ## States in between -/

/-- The store after the first `i` operations of a history. -/
def after (db : Database) (ops : List StoreOperation) (i : Nat) : Database :=
  Machine.run (step cfg) db (ops.take i)

theorem run_after (db : Database) (ops : List StoreOperation) (i : Nat) :
    Machine.run (step cfg) (db.after cfg ops i) (ops.drop i) =
      Machine.run (step cfg) db ops := by
  unfold after
  rw [← Machine.run_append, List.take_append_drop]

/-- The rows that are appended after a state come after every row that it has. -/
theorem exists_append_rowsAfter {db : Database} {ops : List StoreOperation} {i : Nat}
    {row : OutboxRow} (hrow : row ∈ (db.after cfg ops i).outbox) {pre post : List OutboxRow}
    (h : (Machine.run (step cfg) db ops).rowsAfter db.dataPlaneOutboxCursorInner =
      pre ++ row :: post) :
    ∃ between, post = between ++ (Machine.run (step cfg) db ops).rowsAfter
      (db.after cfg ops i).dataPlaneOutboxCursorInner := by
  set later := (Machine.run (step cfg) db ops).rowsAfter
    (db.after cfg ops i).dataPlaneOutboxCursorInner
  have hnot : row ∉ later := by
    intro hmem
    have hlt := of_decide_eq_true (List.mem_filter.1 hmem).2
    exact absurd ((db.after cfg ops i).id_le_dataPlaneOutboxCursorInner hrow) hlt.not_ge
  have hlater : (Machine.run (step cfg) db ops).outbox =
      (db.after cfg ops i).outbox ++ later := by
    have hrun := (db.after cfg ops i).outbox_run cfg (ops.drop i)
    rwa [run_after] at hrun
  have hsplit : db.outbox ++ (pre ++ row :: post) = (db.after cfg ops i).outbox ++ later := by
    rw [← h, ← db.outbox_run cfg ops, hlater]
  rw [← List.append_assoc] at hsplit
  rcases List.append_eq_append_iff.1 hsplit with ⟨before, -, hrest⟩ | ⟨_, -, hrest⟩
  · cases before with
    | nil =>
        rw [List.nil_append] at hrest
        exact absurd (hrest ▸ List.mem_cons_self) hnot
    | cons _ before => exact ⟨before, (List.cons.inj hrest).2⟩
  · exact absurd (by rw [hrest]; simp) hnot

/-- A row is loaded from a state whose later changes are all logged after it. -/
theorem currentAt_after {db : Database} {ops : List StoreOperation} {moment : OutboxRow → Nat}
    (h : ∀ row ∈ (Machine.run (step cfg) db ops).rowsAfter db.dataPlaneOutboxCursorInner,
      row ∈ (db.after cfg ops (moment row)).outbox) :
    let db' := Machine.run (step cfg) db ops
    let rows := db'.rowsAfter db.dataPlaneOutboxCursorInner
    (∀ id, CurrentAt (fun row => accountChange row.event)
        (fun row => (db.after cfg ops (moment row)).accountView cfg now)
        (db'.accountView cfg now) rows id) ∧
      ∀ k, CurrentAt (fun row => configChange row.event)
        (fun row => (db.after cfg ops (moment row)).configView) db'.configView rows k := by
  intro db' rows
  have hlater : ∀ pre row post, rows = pre ++ row :: post → ∃ between rest,
      post = between ++ rest ∧
        Logs (fun row => accountChange row.event)
          ((db.after cfg ops (moment row)).accountView cfg now) (db'.accountView cfg now) rest ∧
        Logs (fun row => configChange row.event)
          (db.after cfg ops (moment row)).configView db'.configView rest := by
    intro pre row post hrows
    have hmem : row ∈ rows := by
      rw [hrows]
      simp
    obtain ⟨between, hpost⟩ := exists_append_rowsAfter cfg (h row hmem) hrows
    have hlogs := (db.after cfg ops (moment row)).rowsAfter_logs cfg now (ops.drop (moment row))
    rw [run_after] at hlogs
    exact ⟨between, _, hpost, hlogs⟩
  constructor
  · intro id
    refine currentAt_of_logs fun pre row post hrows => ?_
    obtain ⟨between, rest, hpost, hlogs, -⟩ := hlater pre row post hrows
    exact ⟨between, rest, hpost, hlogs⟩
  · intro k
    refine currentAt_of_logs fun pre row post hrows => ?_
    obtain ⟨between, rest, hpost, -, hlogs⟩ := hlater pre row post hrows
    exact ⟨between, rest, hpost, hlogs⟩

end Database

end CodexPool
