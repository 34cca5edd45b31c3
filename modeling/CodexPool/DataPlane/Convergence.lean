import CodexPool.ControlPlane.Loaders
import CodexPool.ControlPlane.Outbox
import CodexPool.DataPlane.Snapshot

/-!
# Snapshots and events lead to the same configuration

A data plane that has applied a full snapshot and then takes the events since its
cursor is compared with one that applies the snapshot of the end directly. The first
replays the outbox, which is a change log of the accounts and of the configuration
(`Database.rowsAfter_logs`), against the current tables, so both end with them. The
traits of the accounts are no part of an event: they are as of the last full snapshot.
-/

namespace CodexPool

open Keyed ChangeLog

/-! ## What a data plane holds -/

structure DataPlaneSettings where
  aiErrorLearningSettings : AiErrorLearningSettings
  approvedUpstreamErrorTemplates : String → Option UpstreamErrorTemplateRecord
  builtinErrorTemplates : String → Option BuiltinErrorTemplateRecord
  outboundProxyPoolSettings : OutboundProxyPoolSettings
  outboundProxyNodes : List OutboundProxyNode
  claudeCodeRoutingSettings : ClaudeCodeRoutingSettings

namespace AppState

def settings (app : AppState) : DataPlaneSettings where
  aiErrorLearningSettings := app.aiErrorLearningSettings
  approvedUpstreamErrorTemplates := app.approvedUpstreamErrorTemplates
  builtinErrorTemplates := app.builtinErrorTemplates
  outboundProxyPoolSettings := app.outboundProxyRuntime.settings
  outboundProxyNodes := app.outboundProxyRuntime.nodes
  claudeCodeRoutingSettings := app.claudeCodeRoutingSettings

def accountView (app : AppState) (id : Uuid) : Option UpstreamAccount :=
  (app.router.account id).map UpstreamAccount.withoutIdleToken

/-- The settings, as a table with one row. -/
def settingsView (app : AppState) (_ : Unit) : Option DataPlaneSettings := some app.settings

def applyPages (app : AppState) (pages : List DataPlaneSnapshotEventsResponse) : AppState :=
  pages.foldl (fun app page => (app.applySnapshotEvents page).1) app

def withCursors (app : AppState) (cursor remoteCursor : Nat) : AppState :=
  { app with snapshotCursor := cursor, snapshotRemoteCursor := remoteCursor }

theorem foldl_applyEvent_withCursors (events : List DataPlaneSnapshotEvent) (app : AppState)
    (cursor remoteCursor : Nat) :
    events.foldl applyEvent (app.withCursors cursor remoteCursor) =
      (events.foldl applyEvent app).withCursors cursor remoteCursor := by
  induction events generalizing app with
  | nil => rfl
  | cons event events ih => exact ih (app.applyEvent event)

theorem applyPages_eq (app : AppState) (pages : List DataPlaneSnapshotEventsResponse) :
    ∃ cursor remoteCursor, app.applyPages pages =
      ((pages.flatMap (·.events)).foldl applyEvent app).withCursors cursor remoteCursor := by
  induction pages generalizing app with
  | nil => exact ⟨app.snapshotCursor, app.snapshotRemoteCursor, rfl⟩
  | cons page pages ih =>
      obtain ⟨cursor, remoteCursor, hrest⟩ := ih (app.applySnapshotEvents page).1
      obtain ⟨c, r, hpage⟩ : ∃ c r, (app.applySnapshotEvents page).1 =
          (page.events.foldl applyEvent app).withCursors c r := ⟨_, _, rfl⟩
      refine ⟨cursor, remoteCursor, ?_⟩
      rw [List.flatMap_cons, List.foldl_append]
      calc app.applyPages (page :: pages)
          = (app.applySnapshotEvents page).1.applyPages pages := rfl
        _ = ((pages.flatMap (·.events)).foldl applyEvent
              (app.applySnapshotEvents page).1).withCursors cursor remoteCursor := hrest
        _ = _ := by
          rw [hpage, foldl_applyEvent_withCursors]
          rfl

end AppState

def ConfigTables.settings (cfg : StoreConfig) (now : DateTime) (t : ConfigTables) :
    DataPlaneSettings where
  aiErrorLearningSettings := t.loadUpstreamErrorLearningSettingsInner
  approvedUpstreamErrorTemplates :=
    approvedTemplateMap t.loadApprovedUpstreamErrorTemplatesInner
  builtinErrorTemplates := builtinTemplateMap (t.listBuiltinErrorTemplates cfg)
  outboundProxyPoolSettings := t.loadOutboundProxyPoolSettingsInner now
  outboundProxyNodes := t.listOutboundProxyNodesInner
  claudeCodeRoutingSettings := t.loadClaudeCodeRoutingSettingsInner now

section Load

variable (cfg : StoreConfig) (now : DateTime)

/-! ## The full snapshot -/

theorem AccountTable.nodup_loadSnapshotAccountsInner (t : AccountTable) :
    ((t.loadSnapshotAccountsInner cfg now).map (·.id)).Nodup := by
  unfold loadSnapshotAccountsInner
  rw [List.map_map]
  have hids : (fun account : UpstreamAccount => account.id) ∘
      (fun row : AccountRow => row.snapshotAccount now cfg.credentialCipher) =
      fun row => row.id := by
    funext row
    exact row.snapshotAccount_id now cfg.credentialCipher
  rw [hids]
  exact t.nodup_activeRows

variable {cfg now} {app : AppState} {db : Database} {freshId : Uuid}

theorem applySnapshot_accounts (h : app.Precedes (db.snapshotInner cfg now freshId)) :
    (app.applySnapshot (db.snapshotInner cfg now freshId)).router.accounts =
      db.tables.accounts.loadSnapshotAccountsInner cfg now := by
  rw [AppState.applySnapshot_of_precedes h]
  rfl

theorem accountView_applySnapshot (h : app.Precedes (db.snapshotInner cfg now freshId)) :
    (app.applySnapshot (db.snapshotInner cfg now freshId)).accountView =
      db.accountView cfg now := by
  funext id
  unfold AppState.accountView Router.account Database.accountView AccountTable.view
    AccountTable.loadSnapshotAccountById
  rw [applySnapshot_accounts h, ← AccountTable.lookupBy_activeRows,
    AccountTable.loadSnapshotAccountsInner,
    lookupBy_map fun row => row.snapshotAccount_id now cfg.credentialCipher,
    Option.map_map, Option.map_map]
  have htoken : UpstreamAccount.withoutIdleToken ∘
      (fun row : AccountRow => row.snapshotAccount now cfg.credentialCipher) =
      UpstreamAccount.withoutIdleToken ∘
        fun row : AccountRow => row.eventAccount now cfg.credentialCipher := by
    funext row
    exact row.withoutIdleToken_snapshotAccount now cfg.credentialCipher
  rw [htoken]

theorem settings_applySnapshot (h : app.Precedes (db.snapshotInner cfg now freshId)) :
    (app.applySnapshot (db.snapshotInner cfg now freshId)).settings =
      db.tables.config.settings cfg now := by
  rw [AppState.applySnapshot_of_precedes h]
  rfl

/-! ## The compiled plan -/

/-- A plan up to the reason why it was compiled and, when no version of it is
`published`, up to the version that was drawn for it. -/
def CompiledRoutingPlan.unlabelled (published : Bool) (plan : CompiledRoutingPlan) :
    CompiledRoutingPlan :=
  { plan with
    versionId := if published then plan.versionId else nilUuid
    triggerReason := none }

def Tables.planPublished (t : Tables) : Bool :=
  t.loadLatestRoutingPlanVersionMetadataInner.isSome

theorem Tables.unlabelled_compilePlan (t : Tables) (freshId freshId' : Uuid)
    (reason reason' : Option String) :
    (t.compilePlan cfg now freshId reason).map (·.unlabelled t.planPublished) =
      (t.compilePlan cfg now freshId' reason').map (·.unlabelled t.planPublished) := by
  unfold compilePlan compileRoutingPlanFromState planPublished
  cases t.loadLatestRoutingPlanVersionMetadataInner with
  | none =>
      dsimp only
      split <;> rfl
  | some metadata =>
      dsimp only
      split <;> rfl

/-- The plan that the tables stand for. -/
def Tables.plan (cfg : StoreConfig) (now : DateTime) (t : Tables) :
    Option CompiledRoutingPlan :=
  (t.compilePlan cfg now nilUuid none).map (·.unlabelled t.planPublished)

/-! ## The events -/

/-- The event of a row of the outbox, loaded from the state `source row`. -/
def loadedEvent (cfg : StoreConfig) (now : DateTime) (source : OutboxRow → Database)
    (freshIds : Nat → Uuid) (row : OutboxRow) : DataPlaneSnapshotEvent :=
  (source row).loadEvent cfg now (freshIds row.id) row

/-- The state after the events of some rows. -/
def applyRows (cfg : StoreConfig) (now : DateTime) (source : OutboxRow → Database)
    (freshIds : Nat → Uuid) (app : AppState) (rows : List OutboxRow) : AppState :=
  (rows.map (loadedEvent cfg now source freshIds)).foldl AppState.applyEvent app

variable {source : OutboxRow → Database} {freshIds : Nat → Uuid}

theorem applyRows_concat (app : AppState) (rows : List OutboxRow) (row : OutboxRow) :
    applyRows cfg now source freshIds app (rows ++ [row]) =
      (applyRows cfg now source freshIds app rows).applyEvent
        (loadedEvent cfg now source freshIds row) := by
  simp [applyRows]

theorem loadedEvent_account_id (row : OutboxRow) (account : UpstreamAccount)
    (h : (loadedEvent cfg now source freshIds row).account = some account) :
    account.id = (loadedEvent cfg now source freshIds row).accountId := by
  unfold loadedEvent Database.loadEvent at h
  dsimp only at h
  split at h
  · obtain ⟨accountRow, hrow, rfl⟩ := Option.map_eq_some_iff.1 h
    rw [AccountRow.eventAccount_id]
    exact AccountTable.id_of_find (Option.filter_eq_some_iff.1 hrow).1
  · cases h

/-- An event of the outbox replays what the log says of its account. -/
theorem accountView_applyEvent (app : AppState) (row : OutboxRow) :
    (app.applyEvent (loadedEvent cfg now source freshIds row)).accountView =
      replayStep (fun row => accountChange row.event) ((source row).accountView cfg now)
        app.accountView row := by
  have hroute := AppState.account_applyEventRoute app.router
    (loadedEvent cfg now source freshIds row) (loadedEvent_account_id row)
  funext id
  have hid := congrFun hroute id
  simp only [AppState.accountView, AppState.applyEvent, AppState.applyEventSettings]
  rw [hid]
  unfold replayStep accountChange OutboxRow.event loadedEvent AppState.eventValue
  cases htype : row.eventType with
  | routingPlanRefresh => simp [Database.loadEvent, htype, AppState.accountView]
  | accountUpsert =>
      by_cases h : row.accountId = id
      · subst h
        simp [Database.loadEvent, htype, Database.accountView, AccountTable.view]
      · simp [Database.loadEvent, htype, h, Ne.symm h, AppState.accountView]
  | accountDelete =>
      by_cases h : row.accountId = id
      · subst h
        simp [Database.loadEvent, htype]
      · simp [Database.loadEvent, htype, h, Ne.symm h, AppState.accountView]

theorem settingsView_applyEvent (app : AppState) (row : OutboxRow) :
    (app.applyEvent (loadedEvent cfg now source freshIds row)).settingsView =
      replayStep (fun row => configChange row.event)
        (fun k => ((source row).configView k).map (ConfigTables.settings cfg now))
        app.settingsView row := by
  funext k
  unfold replayStep configChange OutboxRow.event loadedEvent
  cases htype : row.eventType with
  | routingPlanRefresh =>
      simp [AppState.settingsView, AppState.settings, AppState.applyEvent,
        AppState.applyEventSettings, Database.loadEvent, htype, Database.configView,
        ConfigTables.settings, OutboundProxyRuntime.replaceConfig]
  | accountUpsert =>
      simp [AppState.settingsView, AppState.settings, AppState.applyEvent,
        AppState.applyEventSettings, Database.loadEvent, htype]
  | accountDelete =>
      simp [AppState.settingsView, AppState.settings, AppState.applyEvent,
        AppState.applyEventSettings, Database.loadEvent, htype]

theorem accountView_applyRows (app : AppState) (rows : List OutboxRow) :
    (applyRows cfg now source freshIds app rows).accountView =
      replay (fun row => accountChange row.event) (fun row => (source row).accountView cfg now)
        app.accountView rows := by
  unfold applyRows replay
  induction rows generalizing app with
  | nil => rfl
  | cons row rows ih =>
      rw [List.map_cons, List.foldl_cons, List.foldl_cons, ih, accountView_applyEvent]

theorem settingsView_applyRows (app : AppState) (rows : List OutboxRow) :
    (applyRows cfg now source freshIds app rows).settingsView =
      replay (fun row => configChange row.event)
        (fun row k => ((source row).configView k).map (ConfigTables.settings cfg now))
        app.settingsView rows := by
  unfold applyRows replay
  induction rows generalizing app with
  | nil => rfl
  | cons row rows ih =>
      rw [List.map_cons, List.foldl_cons, List.foldl_cons, ih, settingsView_applyEvent]

theorem nodup_accountIds_applyRows {app : AppState} (h : app.router.accountIds.Nodup)
    (rows : List OutboxRow) :
    (applyRows cfg now source freshIds app rows).router.accountIds.Nodup := by
  induction rows using List.reverseRecOn with
  | nil => exact h
  | append_singleton rows row ih =>
      rw [applyRows_concat]
      exact AppState.nodup_accountIds_applyEventRoute ih _

theorem traitsListed_applyRows {app : AppState} (h : app.router.TraitsListed)
    (rows : List OutboxRow) :
    (applyRows cfg now source freshIds app rows).router.TraitsListed := by
  induction rows using List.reverseRecOn with
  | nil => exact h
  | append_singleton rows row ih =>
      rw [applyRows_concat]
      exact AppState.traitsListed_applyEventRoute ih (loadedEvent_account_id row)

theorem accountTraits_applyRows {app : AppState} (h : app.router.TraitsListed)
    (rows : List OutboxRow) (id : Uuid) :
    (applyRows cfg now source freshIds app rows).router.accountTraits id =
      if rows.any fun row =>
          AppState.dropsTraits (loadedEvent cfg now source freshIds row) id then none
      else app.router.accountTraits id := by
  induction rows using List.reverseRecOn with
  | nil => rfl
  | append_singleton rows row ih =>
      rw [applyRows_concat]
      refine (AppState.accountTraits_applyEventRoute (traitsListed_applyRows h rows)
        (loadedEvent_account_id row) id).trans ?_
      rw [ih, List.any_append, List.any_cons, List.any_nil, Bool.or_false]
      cases AppState.dropsTraits (loadedEvent cfg now source freshIds row) id <;> simp

theorem plan_applyEvent (app : AppState) {row : OutboxRow} {t : Tables}
    (h : (source row).tables = t) :
    (app.applyEvent (loadedEvent cfg now source freshIds row)).router.compiledRoutingPlan.map
        (·.unlabelled t.planPublished) =
      if (t.plan cfg now).isSome ∨ row.eventType = .routingPlanRefresh then t.plan cfg now
      else app.router.compiledRoutingPlan.map (·.unlabelled t.planPublished) := by
  set event := loadedEvent cfg now source freshIds row
  have hplan : event.compiledRoutingPlan.map (·.unlabelled t.planPublished) =
      t.plan cfg now := by
    rw [← h]
    exact Tables.unlabelled_compilePlan _ _ _ _ _
  have hroute : (app.applyEvent event).router.compiledRoutingPlan =
      if event.compiledRoutingPlan.isSome ∨ row.eventType = .routingPlanRefresh then
        event.compiledRoutingPlan
      else app.router.compiledRoutingPlan :=
    AppState.compiledRoutingPlan_applyEventRoute app.router event
  rw [hroute, ← hplan, Option.isSome_map]
  split <;> rfl

theorem plan_applyRows (app : AppState) {t : Tables} {row : OutboxRow}
    (pre : List OutboxRow) {post : List OutboxRow}
    (hrow : (t.plan cfg now).isSome ∨ row.eventType = .routingPlanRefresh)
    (hsource : ∀ r ∈ row :: post, (source r).tables = t) :
    (applyRows cfg now source freshIds app
        (pre ++ row :: post)).router.compiledRoutingPlan.map (·.unlabelled t.planPublished) =
      t.plan cfg now := by
  induction post using List.reverseRecOn with
  | nil =>
      rw [applyRows_concat, plan_applyEvent _ (hsource row List.mem_cons_self), if_pos hrow]
  | append_singleton post last ih =>
      have hpost : ∀ r ∈ row :: post, (source r).tables = t := fun r hr =>
        hsource r (List.mem_append_left [last] hr)
      have hlast : (source last).tables = t := hsource last (by simp)
      rw [← List.cons_append, ← List.append_assoc, applyRows_concat, plan_applyEvent _ hlast,
        ih hpost, ite_self]

end Load

/-! ## Convergence -/

section Convergence

variable (cfg : StoreConfig) (now : DateTime) (db : Database) (ops : List StoreOperation)

/-- The state of the store after a history. -/
abbrev Database.final : Database := Machine.run (Database.step cfg) db ops

/-- The rows of the outbox that a history appends. -/
abbrev Database.rowsOf : List OutboxRow :=
  (db.final cfg ops).rowsAfter db.dataPlaneOutboxCursorInner

/-- What a data plane is sent of a history: the events of its rows in order, cut into
pages. The event of a row is loaded after the first `moment row` operations, when the row
has been appended. -/
structure EventFeed where
  moment : OutboxRow → Nat
  freshIds : Nat → Uuid
  pages : List DataPlaneSnapshotEventsResponse
  appended : ∀ row ∈ db.rowsOf cfg ops, row ∈ (db.after cfg ops (moment row)).outbox
  pages_eq : pages.flatMap (·.events) =
    (db.rowsOf cfg ops).map
      (loadedEvent cfg now (fun row => db.after cfg ops (moment row)) freshIds)

namespace EventFeed

variable {cfg now db ops} (feed : EventFeed cfg now db ops)

/-- The event of a row, as it is sent. -/
def event (row : OutboxRow) : DataPlaneSnapshotEvent :=
  loadedEvent cfg now (fun row => db.after cfg ops (feed.moment row)) feed.freshIds row

/-- From some event on, the events are loaded from the tables of the end; the first of
them is a refresh, or the tables have a plan. -/
def PlanCurrent : Prop :=
  ∃ pre row post, db.rowsOf cfg ops = pre ++ row :: post ∧
    (∀ r ∈ row :: post, (db.after cfg ops (feed.moment r)).tables = (db.final cfg ops).tables) ∧
    (((db.final cfg ops).tables.plan cfg now).isSome ∨ row.eventType = .routingPlanRefresh)

/-- The pages are the events of the rows, apart from the cursors. -/
theorem applyPages_eq_applyRows (app : AppState) :
    ∃ cursor remoteCursor, app.applyPages feed.pages =
      (applyRows cfg now (fun row => db.after cfg ops (feed.moment row)) feed.freshIds app
        (db.rowsOf cfg ops)).withCursors cursor remoteCursor := by
  obtain ⟨cursor, remoteCursor, h⟩ := app.applyPages_eq feed.pages
  rw [feed.pages_eq] at h
  exact ⟨cursor, remoteCursor, h⟩

end EventFeed

/-- Routers that list the same accounts under the same ids. -/
theorem AppState.perm_of_accountView_eq {app app' : AppState}
    (hnd : app.router.accountIds.Nodup) (hnd' : app'.router.accountIds.Nodup)
    (h : app.accountView = app'.accountView) :
    (app.router.accounts.map UpstreamAccount.withoutIdleToken).Perm
      (app'.router.accounts.map UpstreamAccount.withoutIdleToken) := by
  have hid : ∀ account : UpstreamAccount, account.withoutIdleToken.id = account.id := by
    intro account
    unfold UpstreamAccount.withoutIdleToken
    split <;> rfl
  have hnodup : ∀ r : Router, r.accountIds.Nodup →
      ((r.accounts.map UpstreamAccount.withoutIdleToken).map (·.id)).Nodup := by
    intro r hr
    have hids : (r.accounts.map UpstreamAccount.withoutIdleToken).map (·.id) =
        r.accountIds := by
      rw [List.map_map]
      exact List.map_congr_left fun account _ => hid account
    rw [hids]
    exact hr
  refine perm_of_lookupBy_eq (hnodup _ hnd) (hnodup _ hnd') ?_
  funext id
  rw [lookupBy_map hid, lookupBy_map hid]
  exact congrFun h id

namespace EventFeed

variable {cfg now db ops} (feed : EventFeed cfg now db ops) {app app' : AppState}
  {freshId freshId' : Uuid}

/-- The data plane after the snapshot and the events, apart from the cursors. -/
def replica (app : AppState) (freshId : Uuid) : AppState :=
  applyRows cfg now (fun row => db.after cfg ops (feed.moment row)) feed.freshIds
    (app.applySnapshot (db.snapshotInner cfg now freshId)) (db.rowsOf cfg ops)

theorem perm_accounts (hc : app.Precedes (db.snapshotInner cfg now freshId))
    (hn : app'.Precedes ((db.final cfg ops).snapshotInner cfg now freshId')) :
    ((feed.replica app freshId).router.accounts.map UpstreamAccount.withoutIdleToken).Perm
      ((app'.applySnapshot ((db.final cfg ops).snapshotInner cfg now
        freshId')).router.accounts.map UpstreamAccount.withoutIdleToken) := by
  obtain ⟨hlogs, -⟩ := db.rowsAfter_logs cfg now ops
  obtain ⟨hcurrent, -⟩ := Database.currentAt_after cfg now feed.appended
  refine AppState.perm_of_accountView_eq (nodup_accountIds_applyRows ?_ _) ?_ ?_
  · rw [Router.accountIds, applySnapshot_accounts hc]
    exact db.tables.accounts.nodup_loadSnapshotAccountsInner cfg now
  · rw [Router.accountIds, applySnapshot_accounts hn]
    exact (db.final cfg ops).tables.accounts.nodup_loadSnapshotAccountsInner cfg now
  · rw [replica, accountView_applyRows, accountView_applySnapshot hc,
      accountView_applySnapshot hn]
    exact hlogs.replay_eq hcurrent

theorem settings_eq (hc : app.Precedes (db.snapshotInner cfg now freshId))
    (hn : app'.Precedes ((db.final cfg ops).snapshotInner cfg now freshId')) :
    (feed.replica app freshId).settings =
      (app'.applySnapshot ((db.final cfg ops).snapshotInner cfg now freshId')).settings := by
  obtain ⟨-, hlogs⟩ := db.rowsAfter_logs cfg now ops
  obtain ⟨-, hcurrent⟩ := Database.currentAt_after cfg now feed.appended
  have hstart : (app.applySnapshot (db.snapshotInner cfg now freshId)).settingsView =
      fun k => (db.configView k).map (ConfigTables.settings cfg now) := by
    funext k
    rw [AppState.settingsView, settings_applySnapshot hc]
    rfl
  have hreplica : (feed.replica app freshId).settingsView =
      fun k => ((db.final cfg ops).configView k).map (ConfigTables.settings cfg now) := by
    rw [replica, settingsView_applyRows, hstart]
    exact (hlogs.map _).replay_eq fun k => (hcurrent k).map _
  rw [settings_applySnapshot hn]
  exact Option.some.inj (congrFun hreplica ())

theorem plan_eq (h : feed.PlanCurrent)
    (hn : app'.Precedes ((db.final cfg ops).snapshotInner cfg now freshId')) :
    (feed.replica app freshId).router.compiledRoutingPlan.map
        (·.unlabelled (db.final cfg ops).tables.planPublished) =
      (app'.applySnapshot ((db.final cfg ops).snapshotInner cfg now
        freshId')).router.compiledRoutingPlan.map
          (·.unlabelled (db.final cfg ops).tables.planPublished) := by
  obtain ⟨pre, row, post, hrows, hsource, hrow⟩ := h
  rw [replica, hrows, plan_applyRows _ pre hrow hsource, AppState.applySnapshot_of_precedes hn]
  exact Tables.unlabelled_compilePlan _ _ _ _ _

theorem accountTraits_eq (hc : app.Precedes (db.snapshotInner cfg now freshId)) (id : Uuid) :
    (feed.replica app freshId).router.accountTraits id =
      if (db.rowsOf cfg ops).any fun row => AppState.dropsTraits (feed.event row) id then none
      else (db.snapshotInner cfg now freshId).traits id := by
  refine (accountTraits_applyRows (AppState.traitsListed_applySnapshot hc) _ id).trans ?_
  rw [AppState.applySnapshot_accountTraits hc]
  rfl

/-- A data plane that applies a full snapshot and then the events of a history, and one
that applies the full snapshot of its end, hold the same accounts and settings. They
hold the same plan if the last events are current; the traits of the accounts are those
of the first snapshot, less those of the accounts that an event removes or disables. -/
theorem converges (hc : app.Precedes (db.snapshotInner cfg now freshId))
    (hn : app'.Precedes ((db.final cfg ops).snapshotInner cfg now freshId')) :
    let caughtUp := (app.applySnapshot (db.snapshotInner cfg now freshId)).applyPages feed.pages
    let full := app'.applySnapshot ((db.final cfg ops).snapshotInner cfg now freshId')
    let published := (db.final cfg ops).tables.planPublished
    (caughtUp.router.accounts.map UpstreamAccount.withoutIdleToken).Perm
        (full.router.accounts.map UpstreamAccount.withoutIdleToken) ∧
      caughtUp.settings = full.settings ∧
      (feed.PlanCurrent →
        caughtUp.router.compiledRoutingPlan.map (·.unlabelled published) =
          full.router.compiledRoutingPlan.map (·.unlabelled published)) ∧
      ∀ id, caughtUp.router.accountTraits id =
        if (db.rowsOf cfg ops).any fun row => AppState.dropsTraits (feed.event row) id then none
        else (db.snapshotInner cfg now freshId).traits id := by
  intro caughtUp full published
  obtain ⟨cursor, remoteCursor, hcaughtUp⟩ : ∃ cursor remoteCursor,
      caughtUp = (feed.replica app freshId).withCursors cursor remoteCursor :=
    feed.applyPages_eq_applyRows _
  rw [hcaughtUp]
  exact ⟨feed.perm_accounts hc hn, feed.settings_eq hc hn, fun h => feed.plan_eq h hn,
    feed.accountTraits_eq hc⟩

/-- A feed in which every event is a page of its own. -/
def singly (moment : OutboxRow → Nat) (freshIds : Nat → Uuid)
    (h : ∀ row ∈ db.rowsOf cfg ops, row ∈ (db.after cfg ops (moment row)).outbox) :
    EventFeed cfg now db ops where
  moment := moment
  freshIds := freshIds
  pages := (db.rowsOf cfg ops).map fun row =>
    { cursor := row.id, highWatermark := row.id
      events := [(db.after cfg ops (moment row)).loadEvent cfg now (freshIds row.id) row] }
  appended := h
  pages_eq := by
    rw [List.flatMap_map, ← List.map_eq_flatMap]
    rfl

section Sample

def sampleAccountId : Uuid := ⟨"6f1c1d5e-0000-4000-8000-00000000000a"⟩

def sampleProfileId : Uuid := ⟨"6f1c1d5e-0000-4000-8000-00000000000b"⟩

def samplePolicyId : Uuid := ⟨"6f1c1d5e-0000-4000-8000-00000000000c"⟩

/-- A history that adds an account, a profile that selects every account, and a default
policy that uses it. -/
def sampleOps : List StoreOperation :=
  [.account (.insertUpstreamAccount sampleAccountId 1
      { label := "primary", mode := .openAiApiKey, baseUrl := "https://upstream.example"
        bearerToken := "token", chatgptAccountId := none, enabled := none, priority := none }),
    .config (.upsertRoutingProfile sampleProfileId 2
      { id := none, name := "all", description := none, enabled := true, priority := 100
        selector :=
          { planTypes := [], modes := [], authProviders := []
            includeAccountIds := [], excludeAccountIds := [] } }),
    .config (.upsertModelRoutingPolicy samplePolicyId 3
      { id := none, name := "default", family := "default", exactModels := []
        modelPrefixes := [], fallbackProfileIds := [sampleProfileId], enabled := true
        priority := 100 })]

/-- Operation `i` appends row `i`, which is loaded right after it. -/
def sampleFeed : EventFeed StoreConfig.plain 10 Database.empty sampleOps :=
  singly (·.id) (fun _ => nilUuid) (by decide +kernel)

/-- The data plane starts, takes the snapshot of the empty store and then the events, and
ends with the account and the plan. -/
theorem converges_sampleFeed :
    let app := AppState.initial 10 []
    let snapshot := Database.empty.snapshotInner StoreConfig.plain 10 nilUuid
    let snapshot' := (Database.empty.final StoreConfig.plain sampleOps).snapshotInner
      StoreConfig.plain 10 nilUuid
    let caughtUp := (app.applySnapshot snapshot).applyPages sampleFeed.pages
    app.Precedes snapshot ∧ app.Precedes snapshot' ∧ sampleFeed.PlanCurrent ∧
      (caughtUp.router.accounts.map UpstreamAccount.withoutIdleToken).Perm
        ((app.applySnapshot snapshot').router.accounts.map UpstreamAccount.withoutIdleToken) ∧
      caughtUp.router.compiledRoutingPlan.map (·.unlabelled false) =
        (app.applySnapshot snapshot').router.compiledRoutingPlan.map (·.unlabelled false) := by
  intro app snapshot snapshot' caughtUp
  have hc : app.Precedes snapshot := by decide +kernel
  have hn : app.Precedes snapshot' := by decide +kernel
  have hplan : sampleFeed.PlanCurrent := by
    refine ⟨[⟨1, .accountUpsert, sampleAccountId⟩, ⟨2, .routingPlanRefresh, nilUuid⟩],
      ⟨3, .routingPlanRefresh, nilUuid⟩, [], by decide +kernel, ?_, Or.inr rfl⟩
    intro r hr
    rw [List.mem_singleton.1 hr]
    rfl
  obtain ⟨haccounts, -, hroutes, -⟩ := sampleFeed.converges hc hn
  exact ⟨hc, hn, hplan, haccounts, hroutes hplan⟩

/-- The new account has traits in the full snapshot of the end, but no event brings them. -/
theorem accountTraits_not_converges :
    let app := AppState.initial 10 []
    let snapshot := Database.empty.snapshotInner StoreConfig.plain 10 nilUuid
    let snapshot' := (Database.empty.final StoreConfig.plain sampleOps).snapshotInner
      StoreConfig.plain 10 nilUuid
    app.Precedes snapshot ∧ app.Precedes snapshot' ∧ snapshot.cursor < snapshot'.cursor ∧
      ((app.applySnapshot snapshot).applyPages sampleFeed.pages).router.accountTraits
          sampleAccountId = none ∧
      (app.applySnapshot snapshot').router.accountTraits sampleAccountId ≠ none := by
  decide +kernel

end Sample

end EventFeed

end Convergence

end CodexPool
