import CodexPool.ControlPlane.RoutingPlan

/-!
# The store of the control plane

The tables that a data plane's configuration is read from, the outbox of the events
that tell data planes of a change, and the two ways in which they are read: as one
full snapshot, and as the events after a cursor. All the reads of a request see one
state of the database and one clock reading.
-/

namespace CodexPool

open Keyed

/-- What the store takes from outside: the key that decrypts credentials, when one is
configured, the parser of base URLs, and the texts of the builtin templates. -/
structure StoreConfig where
  credentialCipher : Option (String → Option String)
  normalizeUpstreamAccountBaseUrl : UpstreamMode → String → String
  defaultBuiltinErrorTemplates : List BuiltinErrorTemplateRecord

structure RoutingPlanVersionMetadata where
  id : Uuid
  reason : Option String
  publishedAt : DateTime
deriving DecidableEq

structure BuiltinErrorTemplateOverrideRecord where
  kind : BuiltinErrorTemplateKind
  code : String
  templates : LocalizedErrorTemplates
  updatedAt : DateTime
deriving DecidableEq

/-- The accounts, by their primary key. -/
structure AccountTable where
  rows : List AccountRow
  nodup : (rows.map (·.id)).Nodup

/-- The tables of the configuration. A settings table has at most one row. -/
structure ConfigTables where
  routingProfiles : List RoutingProfile
  modelRoutingPolicies : List ModelRoutingPolicy
  claudeCodeRoutingSettings : Option ClaudeCodeRoutingSettings
  upstreamErrorLearningSettings : Option AiErrorLearningSettings
  upstreamErrorTemplates : List UpstreamErrorTemplateRecord
  builtinErrorTemplateOverrides : List BuiltinErrorTemplateOverrideRecord
  outboundProxyPoolSettings : Option OutboundProxyPoolSettings
  outboundProxyNodes : List OutboundProxyNode
deriving DecidableEq

structure Tables where
  accounts : AccountTable
  config : ConfigTables
  routingPlanVersions : List RoutingPlanVersionMetadata

structure OutboxRow where
  id : Nat
  eventType : DataPlaneSnapshotEventType
  accountId : Uuid
deriving DecidableEq

/-- The rows of the outbox stand in the order of their ids, which are drawn from a
sequence. A change marks the revision as dirty, and a job bumps it later. -/
structure Database where
  tables : Tables
  outbox : List OutboxRow
  outboxSequence : Nat
  revision : Nat
  dirty : Bool
  outbox_le : ∀ row ∈ outbox, row.id ≤ outboxSequence

/-! ## The settings of the Claude bridge -/

def normalizeOptionalEffortLabel (value : Option String) : Option String :=
  (value.map fun value => Text.toAsciiLowercase (Text.trim value)).filter (· ≠ "")

/-- The map is given by its entries in the order of their keys; a later entry takes
the place of an earlier one with the same normalized key. -/
def normalizeClaudeCodeFamilyEffortRouting (value : ClaudeCodeFamilyEffortRouting) :
    ClaudeCodeFamilyEffortRouting :=
  let entries := value.sourceToTarget.foldl (fun entries entry =>
    match normalizeOptionalEffortLabel (some entry.1) with
    | none => entries
    | some source =>
      upsertBy (·.1) (source, normalizeOptionalEffortLabel entry.2) entries) []
  { sourceToTarget := entries.insertionSort fun a b => a.1 ≤ b.1
    defaultTargetEffort := normalizeOptionalEffortLabel value.defaultTargetEffort }

def normalizeClaudeCodeEffortRouting (value : ClaudeCodeEffortRoutingSettings) :
    ClaudeCodeEffortRoutingSettings :=
  { value with
    opus := normalizeClaudeCodeFamilyEffortRouting value.opus
    sonnet := normalizeClaudeCodeFamilyEffortRouting value.sonnet
    haiku := normalizeClaudeCodeFamilyEffortRouting value.haiku }

/-! ## Reading the tables -/

section Load

variable (cfg : StoreConfig) (now : DateTime)

namespace ConfigTables

variable (t : ConfigTables)

def listRoutingProfilesInner : List RoutingProfile :=
  t.routingProfiles.insertionSort fun a b =>
    b.priority < a.priority ∨ b.priority = a.priority ∧ a.createdAt ≤ b.createdAt

/-- The lists of a policy are decoded from JSON and sorted, its profiles included. -/
def parseModelRoutingPolicyRow (policy : ModelRoutingPolicy) : ModelRoutingPolicy :=
  { policy with
    exactModels := normalizeStringList policy.exactModels
    modelPrefixes := normalizeStringList policy.modelPrefixes
    fallbackProfileIds :=
      (policy.fallbackProfileIds.insertionSort fun a b => a.text ≤ b.text).eraseReps }

def listModelRoutingPoliciesInner : List ModelRoutingPolicy :=
  (t.modelRoutingPolicies.insertionSort fun a b =>
    b.priority < a.priority ∨ b.priority = a.priority ∧ a.createdAt ≤ b.createdAt).map
      parseModelRoutingPolicyRow

def loadUpstreamErrorLearningSettingsInner : AiErrorLearningSettings :=
  t.upstreamErrorLearningSettings.getD {}

def loadApprovedUpstreamErrorTemplatesInner : List UpstreamErrorTemplateRecord :=
  (t.upstreamErrorTemplates.filter (·.status = .approved)).insertionSort fun a b =>
    a.fingerprint ≤ b.fingerprint

def mergeLocalizedErrorTemplates (base overrides : LocalizedErrorTemplates) :
    LocalizedErrorTemplates :=
  { en := overrides.en.or base.en
    zhCn := overrides.zhCn.or base.zhCn
    zhTw := overrides.zhTw.or base.zhTw
    ja := overrides.ja.or base.ja
    ru := overrides.ru.or base.ru }

def applyBuiltinErrorTemplateOverride (template : BuiltinErrorTemplateRecord) :
    BuiltinErrorTemplateRecord :=
  match collectBy (fun record : BuiltinErrorTemplateOverrideRecord => (record.kind, record.code))
      t.builtinErrorTemplateOverrides (template.kind, template.code) with
  | none => template
  | some record =>
    { template with
      templates := mergeLocalizedErrorTemplates template.defaultTemplates record.templates
      isOverridden := true
      updatedAt := some record.updatedAt }

/-- The gateway's own templates come before the heuristic ones. -/
def listBuiltinErrorTemplates : List BuiltinErrorTemplateRecord :=
  (cfg.defaultBuiltinErrorTemplates.map t.applyBuiltinErrorTemplateOverride).insertionSort
    fun a b =>
      (a.kind = .gatewayError ∧ b.kind = .heuristicUpstream) ∨
        a.kind = b.kind ∧ a.code ≤ b.code

def loadOutboundProxyPoolSettingsInner : OutboundProxyPoolSettings :=
  t.outboundProxyPoolSettings.getD
    { enabled := false, failMode := .strictProxy, updatedAt := now }

def listOutboundProxyNodesInner : List OutboundProxyNode :=
  t.outboundProxyNodes.insertionSort fun a b =>
    a.createdAt < b.createdAt ∨ a.createdAt = b.createdAt ∧ a.id.text ≤ b.id.text

def loadClaudeCodeRoutingSettingsInner : ClaudeCodeRoutingSettings :=
  match t.claudeCodeRoutingSettings with
  | none => defaultClaudeCodeRoutingSettings now
  | some row =>
    { row with
      opusTargetModel := Text.trimmed? row.opusTargetModel
      sonnetTargetModel := Text.trimmed? row.sonnetTargetModel
      haikuTargetModel := Text.trimmed? row.haikuTargetModel
      effortRouting := normalizeClaudeCodeEffortRouting row.effortRouting }

end ConfigTables

namespace AccountTable

variable (t : AccountTable)

def find (accountId : Uuid) : Option AccountRow := lookupBy (·.id) t.rows accountId

/-- The account that an event about it carries. -/
def loadSnapshotAccountById (accountId : Uuid) : Option UpstreamAccount :=
  ((t.find accountId).filter (·.poolState = .active)).map fun row =>
    row.eventAccount now cfg.credentialCipher

/-- The rows of the accounts in the pool, the oldest first. -/
def activeRows : List AccountRow :=
  (t.rows.filter (·.poolState = .active)).insertionSort fun a b =>
    a.createdAt ≤ b.createdAt

def loadSnapshotAccountsInner : List UpstreamAccount :=
  t.activeRows.map fun row => row.snapshotAccount now cfg.credentialCipher

def loadAccountRoutingTraitsInner : List AccountRoutingTraits :=
  t.activeRows.map (·.traits now)

end AccountTable

namespace Tables

variable (t : Tables)

/-- The version that was published last. -/
def loadLatestRoutingPlanVersionMetadataInner : Option RoutingPlanVersionMetadata :=
  (t.routingPlanVersions.insertionSort fun a b => b.publishedAt ≤ a.publishedAt).head?

/-- The plan of the current state, as of the version published last. When no version
has been published, its id is the fresh one and its time the clock reading. -/
def compilePlan (freshId : Uuid) (triggerReason : Option String) :
    Option CompiledRoutingPlan :=
  let metadata := t.loadLatestRoutingPlanVersionMetadataInner
  compileRoutingPlanFromState (t.accounts.loadSnapshotAccountsInner cfg now)
    (t.accounts.loadAccountRoutingTraitsInner now) t.config.listRoutingProfilesInner
    t.config.listModelRoutingPoliciesInner ((metadata.map (·.id)).getD freshId)
    ((metadata.map (·.publishedAt)).getD now) triggerReason

def buildCompiledRoutingPlanInner (freshId : Uuid) (triggerReason : Option String) :
    Option CompiledRoutingPlan :=
  t.compilePlan cfg now freshId
    (triggerReason.or (t.loadLatestRoutingPlanVersionMetadataInner.bind (·.reason)))

def loadCompiledRoutingPlanInner (freshId : Uuid) : Option CompiledRoutingPlan :=
  t.compilePlan cfg now freshId
    ((t.loadLatestRoutingPlanVersionMetadataInner.bind (·.reason)).or
      (some "runtime_snapshot"))

end Tables

namespace Database

variable (db : Database)

/-! ## The full snapshot -/

def dataPlaneOutboxCursorInner : Nat := (db.outbox.map (·.id)).max?.getD 0

def dataPlaneOutboxMinCursorInner : Option Nat := (db.outbox.map (·.id)).min?

def snapshotInner (freshId : Uuid) : DataPlaneSnapshot :=
  let t := db.tables
  let accounts := t.accounts.loadSnapshotAccountsInner cfg now
  { revision := db.revision
    cursor := db.dataPlaneOutboxCursorInner
    accounts := accounts
    accountTraits := accounts.filterMap fun account =>
      lookupBy (·.accountId) (t.accounts.loadAccountRoutingTraitsInner now) account.id
    compiledRoutingPlan :=
      t.buildCompiledRoutingPlanInner cfg now freshId (some "postgres_snapshot")
    aiErrorLearningSettings := t.config.loadUpstreamErrorLearningSettingsInner
    approvedUpstreamErrorTemplates := t.config.loadApprovedUpstreamErrorTemplatesInner
    builtinErrorTemplates := t.config.listBuiltinErrorTemplates cfg
    outboundProxyPoolSettings := t.config.loadOutboundProxyPoolSettingsInner now
    outboundProxyNodes := t.config.listOutboundProxyNodesInner
    claudeCodeRoutingSettings := t.config.loadClaudeCodeRoutingSettingsInner now }

/-! ## The events after a cursor -/

/-- An event carries the current value of what it names: the account of an upsert, the
plan, and the settings when it is a refresh. -/
def loadEvent (freshId : Uuid) (row : OutboxRow) : DataPlaneSnapshotEvent :=
  let t := db.tables
  let ifRefresh {α : Type} (value : α) : Option α :=
    if row.eventType = .routingPlanRefresh then some value else none
  { id := row.id
    eventType := row.eventType
    accountId := row.accountId
    account := if row.eventType = .accountUpsert then
        t.accounts.loadSnapshotAccountById cfg now row.accountId
      else none
    compiledRoutingPlan := t.loadCompiledRoutingPlanInner cfg now freshId
    aiErrorLearningSettings := ifRefresh t.config.loadUpstreamErrorLearningSettingsInner
    approvedUpstreamErrorTemplates := ifRefresh t.config.loadApprovedUpstreamErrorTemplatesInner
    builtinErrorTemplates := ifRefresh (t.config.listBuiltinErrorTemplates cfg)
    outboundProxyPoolSettings := ifRefresh (t.config.loadOutboundProxyPoolSettingsInner now)
    outboundProxyNodes := ifRefresh t.config.listOutboundProxyNodesInner
    claudeCodeRoutingSettings := ifRefresh (t.config.loadClaudeCodeRoutingSettingsInner now) }

def rowsAfter (after : Nat) : List OutboxRow :=
  db.outbox.filter fun row => after < row.id

/-- `freshIds` are the ids that are drawn while the events of a page are loaded. -/
def loadDataPlaneSnapshotEventsInner (freshIds : Nat → Uuid) (after limit : Nat) :
    Result DataPlaneSnapshotEventsResponse :=
  let highWatermark := db.dataPlaneOutboxCursorInner
  if 0 < after ∧ db.dataPlaneOutboxMinCursorInner.any fun minCursor =>
      0 < minCursor ∧ after + 1 < minCursor then
    .error "cursor_gone"
  else
    let cappedLimit := max 1 (min limit 5000)
    let rows := (db.rowsAfter after).take cappedLimit
    if rows.isEmpty then
      .ok { cursor := max highWatermark after, highWatermark := highWatermark, events := [] }
    else
      .ok
        { cursor := rows.foldl (fun cursor row => max cursor row.id) after
          highWatermark := highWatermark
          events := rows.map fun row => db.loadEvent cfg now (freshIds row.id) row }

end Database

end Load

/-! ## A store without data -/

/-- A configuration with no key and no builtin templates, which takes base URLs as they
are. -/
def StoreConfig.plain : StoreConfig where
  credentialCipher := none
  normalizeUpstreamAccountBaseUrl := fun _ url => url
  defaultBuiltinErrorTemplates := []

def Tables.empty : Tables where
  accounts := ⟨[], List.nodup_nil⟩
  config :=
    { routingProfiles := [], modelRoutingPolicies := []
      claudeCodeRoutingSettings := none, upstreamErrorLearningSettings := none
      upstreamErrorTemplates := [], builtinErrorTemplateOverrides := []
      outboundProxyPoolSettings := none, outboundProxyNodes := [] }
  routingPlanVersions := []

def Database.empty : Database where
  tables := Tables.empty
  outbox := []
  outboxSequence := 0
  revision := 1
  dirty := false
  outbox_le := fun _ h => by cases h

end CodexPool
