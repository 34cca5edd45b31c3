import CodexPool.ControlPlane.Store

/-!
# Changes of the control plane's tables

Every function of the store that changes what a data plane is told does so in one
transaction, which also appends to the outbox: one event for every account it
touches, or one refresh of the routing plan for the rest of the configuration. What a
function fetches or computes outside the database, such as the tokens of a refresh, is
part of its input. A function that fails leaves the database as it is.
-/

namespace CodexPool

open Keyed

/-! ## Writing accounts -/

namespace AccountTable

variable (t : AccountTable)

/-- `INSERT ... ON CONFLICT (id) DO UPDATE`. -/
def put (row : AccountRow) : AccountTable :=
  ⟨upsertBy (·.id) row t.rows, nodup_upsertBy t.nodup row⟩

def delete (accountId : Uuid) : AccountTable :=
  ⟨deleteBy (·.id) accountId t.rows, nodup_deleteBy t.nodup accountId⟩

def deleteAll (accountIds : List Uuid) : AccountTable := accountIds.foldl delete t

/-- Rewrites the rows that satisfy `p`. -/
def update (p : AccountRow → Bool) (g : AccountRow → AccountRow)
    (hg : ∀ row, (g row).id = row.id) : AccountTable where
  rows := t.rows.map fun row => if p row then g row else row
  nodup := by
    have hkeys : (t.rows.map fun row => if p row then g row else row).map (·.id) =
        t.rows.map (·.id) := by
      rw [List.map_map]
      refine List.map_congr_left fun row _ => ?_
      by_cases h : p row = true <;> simp [h, hg]
    rw [hkeys]
    exact t.nodup

theorem find_put (row : AccountRow) :
    (t.put row).find = Function.update t.find row.id (some row) :=
  lookupBy_upsertBy row t.rows

theorem find_delete (accountId : Uuid) :
    (t.delete accountId).find = Function.update t.find accountId none :=
  lookupBy_deleteBy accountId t.rows

theorem find_update (p : AccountRow → Bool) (g : AccountRow → AccountRow)
    (hg : ∀ row, (g row).id = row.id) (accountId : Uuid) :
    (t.update p g hg).find accountId =
      (t.find accountId).map fun row => if p row then g row else row := by
  refine lookupBy_map (fun row => ?_) t.rows accountId
  by_cases h : p row = true <;> simp [h, hg]

theorem find_deleteAll_of_not_mem {accountIds : List Uuid} {accountId : Uuid}
    (h : accountId ∉ accountIds) : (t.deleteAll accountIds).find accountId = t.find accountId := by
  unfold deleteAll
  induction accountIds generalizing t with
  | nil => rfl
  | cons id accountIds ih =>
      rw [List.mem_cons, not_or] at h
      rw [List.foldl_cons, ih (t.delete id) h.2, find_delete]
      exact Function.update_of_ne h.1 _ _

end AccountTable

/-- The events that a transaction appends. -/
abbrev Events := List (DataPlaneSnapshotEventType × Uuid)

def nilUuid : Uuid := ⟨"00000000-0000-0000-0000-000000000000"⟩

def upsertEvent (accountId : Uuid) : DataPlaneSnapshotEventType × Uuid :=
  (.accountUpsert, accountId)

def deleteEvent (accountId : Uuid) : DataPlaneSnapshotEventType × Uuid :=
  (.accountDelete, accountId)

def refreshEvent : DataPlaneSnapshotEventType × Uuid := (.routingPlanRefresh, nilUuid)

structure CreateUpstreamAccountRequest where
  label : String
  mode : UpstreamMode
  baseUrl : String
  bearerToken : String
  chatgptAccountId : Option String
  enabled : Option Bool
  priority : Option Int

/-- The functions that change accounts. -/
inductive AccountOperation where
  | insertUpstreamAccount (id : Uuid) (createdAt : DateTime)
      (req : CreateUpstreamAccountRequest)
  | setUpstreamAccountEnabled (accountId : Uuid) (enabled : Bool)
  | deleteUpstreamAccount (accountId : Uuid)
  /-- The import of a refresh token or of a one-time session, and the activation of a
  record of the vault: the row that they leave. -/
  | importAccount (row : AccountRow)
  /-- The purge of expired one-time accounts and the removal of duplicates: the
  accounts that they pick. -/
  | removeAccounts (accountIds : List Uuid)
  | setOauthFamilyEnabled (accountId : Uuid) (enabled : Bool)
  | persistOauthRefreshSuccess (accountId : Uuid) (accessTokenEnc : String)
      (expiresAt : DateTime) (chatgptAccountId : Option String) (profile : SessionProfileRow)
  | persistOauthRefreshFailure (accountId : Uuid) (errorCode : String)
  | persistRateLimitCacheSuccess (accountId : Uuid) (rateLimit : RateLimitRow)
      (chatgptPlanType : Option String)
  | persistRateLimitCacheFailure (accountId : Uuid) (expiresAt : DateTime)
      (errorCode errorMessage : String)
  | recordAccountModelSupport (accountId : Uuid) (supportedModels : List String)

namespace AccountTable

/-- A token family is the set of accounts whose credentials stem from one sign-in. -/
def inFamily (family : Option String) (row : AccountRow) : Bool :=
  family.isSome && (row.credential.bind (·.tokenFamilyId)) = family

/-- The accounts of a family that the control plane refreshes. -/
def inOauthFamily (family : Option String) (row : AccountRow) : Bool :=
  inFamily family row && row.authProvider = .oauthRefreshToken

section Writers

variable (cfg : StoreConfig) (t : AccountTable)

def insertUpstreamAccount (id : Uuid) (createdAt : DateTime)
    (req : CreateUpstreamAccountRequest) : Option (AccountTable × Events) :=
  if (t.find id).isSome then none
  else some
    (t.put
      { id := id, label := req.label, mode := req.mode
        baseUrl := cfg.normalizeUpstreamAccountBaseUrl req.mode req.baseUrl
        bearerToken := req.bearerToken, chatgptAccountId := req.chatgptAccountId
        authProvider := .legacyBearer, enabled := req.enabled.getD true
        poolState := .active, priority := req.priority.getD 100, createdAt := createdAt
        credential := none, rateLimit := none, sessionProfile := none
        supportedModels := none },
      [upsertEvent id])

def setUpstreamAccountEnabledInner (accountId : Uuid) (enabled : Bool) :
    Option (AccountTable × Events) :=
  if (t.find accountId).isNone then none
  else some
    (t.update (·.id = accountId) (fun row => { row with enabled := enabled }) fun _ => rfl,
      [upsertEvent accountId])

def deleteUpstreamAccountInner (accountId : Uuid) : Option (AccountTable × Events) :=
  if (t.find accountId).isNone then none
  else some (t.delete accountId, [deleteEvent accountId])

def removeAccounts (accountIds : List Uuid) : Option (AccountTable × Events) :=
  let deleted := accountIds.filter fun id => (t.find id).isSome
  if deleted.isEmpty then none
  else some (t.deleteAll deleted, deleted.map deleteEvent)

def setFamilyFlag (family : Option String) (enabled : Bool) : AccountTable :=
  t.update (inOauthFamily family) (fun row => { row with enabled := enabled }) fun _ => rfl

def clearRefreshReused (family : Option String) : AccountTable :=
  t.update (inFamily family)
    (fun row => { row with
      credential := row.credential.map fun credential =>
        { credential with refreshReusedDetected := false } })
    fun _ => rfl

/-- The flag is set on the accounts of the family that the control plane refreshes,
and these get an event; a recovery clears the mark of every credential of the family. -/
def setOauthFamilyEnabledInner (accountId : Uuid) (enabled : Bool) :
    Option (AccountTable × Events) :=
  match t.find accountId with
  | none => none
  | some account =>
    let family := account.credential.bind (·.tokenFamilyId)
    if account.authProvider ≠ .oauthRefreshToken ∨ family.isNone then none
    else
      let flagged := t.setFamilyFlag family enabled
      some
        (if enabled then flagged.clearRefreshReused family else flagged,
          ((t.rows.filter (inOauthFamily family)).map (·.id)).map upsertEvent)

/-- The profile of the session must belong to an account. -/
def persistOauthRefreshSuccess (accountId : Uuid) (accessTokenEnc : String)
    (expiresAt : DateTime) (chatgptAccountId : Option String) (profile : SessionProfileRow) :
    Option (AccountTable × Events) :=
  if (t.find accountId).isNone then none
  else some
    (t.update (·.id = accountId)
      (fun row => { row with
        chatgptAccountId := chatgptAccountId.or row.chatgptAccountId
        credential := row.credential.map fun credential =>
          { credential with
            accessTokenEnc := accessTokenEnc
            tokenExpiresAt := expiresAt
            lastRefreshStatus := .ok
            lastRefreshErrorCode := none
            refreshReusedDetected := false }
        sessionProfile := some { profile with
          chatgptPlanType := profile.chatgptPlanType.or
            (row.sessionProfile.bind (·.chatgptPlanType)) } })
      fun _ => rfl,
      [upsertEvent accountId])

/-- A token that was reused or revoked disables its whole family. -/
def persistOauthRefreshFailure (accountId : Uuid) (errorCode : String) :
    Option (AccountTable × Events) :=
  match (t.find accountId).bind (·.credential) with
  | none => none
  | some credential =>
    let revokes := shouldRevokeOauthTokenFamily errorCode
    let failed := t.update (·.id = accountId)
      (fun row => { row with
        credential := row.credential.map fun credential =>
          { credential with
            lastRefreshStatus := .failed
            lastRefreshErrorCode := some errorCode
            refreshReusedDetected := revokes || credential.refreshReusedDetected } })
      fun _ => rfl
    if revokes then
      let family := inFamily credential.tokenFamilyId
      some
        (failed.update family (fun row => { row with enabled := false }) fun _ => rfl,
          ((failed.rows.filter family).map (·.id)).map upsertEvent ++ [upsertEvent accountId])
    else some (failed, [upsertEvent accountId])

def persistRateLimitCacheSuccess (accountId : Uuid) (rateLimit : RateLimitRow)
    (chatgptPlanType : Option String) : Option (AccountTable × Events) :=
  if (t.find accountId).isNone then none
  else some
    (t.update (·.id = accountId)
      (fun row => { row with
        rateLimit := some rateLimit
        sessionProfile := row.sessionProfile.map fun profile =>
          { profile with
            chatgptPlanType := (Text.trimmed? chatgptPlanType).or profile.chatgptPlanType } })
      fun _ => rfl,
      [upsertEvent accountId, refreshEvent])

/-- The rate limits that are known stay. -/
def persistRateLimitCacheFailure (accountId : Uuid) (expiresAt : DateTime)
    (errorCode errorMessage : String) : Option (AccountTable × Events) :=
  if (t.find accountId).isNone then none
  else some
    (t.update (·.id = accountId)
      (fun row => { row with
        rateLimit := some
          { rateLimits := (row.rateLimit.map (·.rateLimits)).getD []
            expiresAt := some expiresAt
            lastErrorCode := some errorCode
            lastErrorMessage := some errorMessage } })
      fun _ => rfl,
      [upsertEvent accountId, refreshEvent])

def recordAccountModelSupportInner (accountId : Uuid) (supportedModels : List String) :
    Option (AccountTable × Events) :=
  if (t.find accountId).isNone then none
  else some
    (t.update (·.id = accountId)
      (fun row => { row with supportedModels := some (normalizeStringList supportedModels) })
      fun _ => rfl,
      [refreshEvent])

end Writers

def apply (cfg : StoreConfig) (t : AccountTable) :
    AccountOperation → Option (AccountTable × Events)
  | .insertUpstreamAccount id createdAt req => t.insertUpstreamAccount cfg id createdAt req
  | .setUpstreamAccountEnabled accountId enabled =>
    t.setUpstreamAccountEnabledInner accountId enabled
  | .deleteUpstreamAccount accountId => t.deleteUpstreamAccountInner accountId
  | .importAccount row => some (t.put row, [upsertEvent row.id])
  | .removeAccounts accountIds => t.removeAccounts accountIds
  | .setOauthFamilyEnabled accountId enabled => t.setOauthFamilyEnabledInner accountId enabled
  | .persistOauthRefreshSuccess accountId accessTokenEnc expiresAt chatgptAccountId profile =>
    t.persistOauthRefreshSuccess accountId accessTokenEnc expiresAt chatgptAccountId profile
  | .persistOauthRefreshFailure accountId errorCode =>
    t.persistOauthRefreshFailure accountId errorCode
  | .persistRateLimitCacheSuccess accountId rateLimit chatgptPlanType =>
    t.persistRateLimitCacheSuccess accountId rateLimit chatgptPlanType
  | .persistRateLimitCacheFailure accountId expiresAt errorCode errorMessage =>
    t.persistRateLimitCacheFailure accountId expiresAt errorCode errorMessage
  | .recordAccountModelSupport accountId supportedModels =>
    t.recordAccountModelSupportInner accountId supportedModels

end AccountTable

/-! ## Writing the configuration -/

structure UpsertRoutingProfileRequest where
  id : Option Uuid
  name : String
  description : Option String
  enabled : Bool
  priority : Int
  selector : RoutingProfileSelector

structure UpsertModelRoutingPolicyRequest where
  id : Option Uuid
  name : String
  family : String
  exactModels : List String
  modelPrefixes : List String
  fallbackProfileIds : List Uuid
  enabled : Bool
  priority : Int

structure UpdateClaudeCodeRoutingSettingsRequest where
  enabled : Bool
  opusTargetModel : Option String
  sonnetTargetModel : Option String
  haikuTargetModel : Option String
  effortRouting : Option ClaudeCodeEffortRoutingSettings

structure UpdateAiErrorLearningSettingsRequest where
  enabled : Bool
  firstSeenTimeoutMs : Nat
  reviewHitThreshold : Nat

structure CreateOutboundProxyNodeRequest where
  label : String
  proxyUrl : String
  enabled : Option Bool
  weight : Option Nat

structure UpdateOutboundProxyNodeRequest where
  label : Option String
  proxyUrl : Option String
  enabled : Option Bool
  weight : Option Nat

/-- The functions that change the rest of the configuration. They append one refresh
of the routing plan each. `freshId` is the id of a new row and `now` the clock. -/
inductive ConfigOperation where
  | upsertRoutingProfile (freshId : Uuid) (now : DateTime) (req : UpsertRoutingProfileRequest)
  | deleteRoutingProfile (profileId : Uuid)
  | upsertModelRoutingPolicy (freshId : Uuid) (now : DateTime)
      (req : UpsertModelRoutingPolicyRequest)
  | deleteModelRoutingPolicy (policyId : Uuid)
  | updateClaudeCodeRoutingSettings (now : DateTime)
      (req : UpdateClaudeCodeRoutingSettingsRequest)
  | updateUpstreamErrorLearningSettings (now : DateTime)
      (req : UpdateAiErrorLearningSettingsRequest)
  | saveUpstreamErrorTemplate (template : UpstreamErrorTemplateRecord)
  | saveBuiltinErrorTemplateOverride (record : BuiltinErrorTemplateOverrideRecord)
  | deleteBuiltinErrorTemplateOverride (kind : BuiltinErrorTemplateKind) (code : String)
  | updateOutboundProxyPoolSettings (now : DateTime) (enabled : Bool) (failMode : ProxyFailMode)
  | createOutboundProxyNode (freshId : Uuid) (now : DateTime)
      (req : CreateOutboundProxyNodeRequest)
  | updateOutboundProxyNode (nodeId : Uuid) (now : DateTime)
      (req : UpdateOutboundProxyNodeRequest)
  | deleteOutboundProxyNode (nodeId : Uuid)
  | recordOutboundProxyTestResult (nodeId : Uuid) (now : DateTime)
      (lastTestStatus : Option String) (lastLatencyMs : Option Nat)
      (lastError : Option String) (lastTestedAt : Option DateTime)

namespace ConfigTables

/-- Trims the samples and keeps the first of those that are equal. -/
def normalizeRepresentativeSamples (samples : List String) : List String :=
  samples.foldl (fun normalized sample =>
    let trimmed := Text.trim sample
    if trimmed = "" ∨ normalized.contains trimmed then normalized
    else normalized ++ [trimmed]) []

section Writers

variable (t : ConfigTables)

/-- A profile that exists keeps the time of its creation. -/
def upsertRoutingProfileInner (freshId : Uuid) (now : DateTime)
    (req : UpsertRoutingProfileRequest) : ConfigTables :=
  let id := req.id.getD freshId
  let createdAt := ((lookupBy (·.id) t.routingProfiles id).map (·.createdAt)).getD now
  { t with
    routingProfiles := upsertBy (·.id)
      { id := id, name := req.name, description := req.description, enabled := req.enabled
        priority := req.priority, selector := req.selector, createdAt := createdAt
        updatedAt := now } t.routingProfiles }

def deleteRoutingProfileInner (profileId : Uuid) : Option ConfigTables :=
  if (lookupBy (·.id) t.routingProfiles profileId).isNone then none
  else some { t with routingProfiles := deleteBy (·.id) profileId t.routingProfiles }

def upsertModelRoutingPolicyInner (freshId : Uuid) (now : DateTime)
    (req : UpsertModelRoutingPolicyRequest) : ConfigTables :=
  let id := req.id.getD freshId
  let createdAt := ((lookupBy (·.id) t.modelRoutingPolicies id).map (·.createdAt)).getD now
  { t with
    modelRoutingPolicies := upsertBy (·.id)
      { id := id, name := req.name, family := req.family
        exactModels := normalizeStringList req.exactModels
        modelPrefixes := normalizeStringList req.modelPrefixes
        fallbackProfileIds := req.fallbackProfileIds, enabled := req.enabled
        priority := req.priority, createdAt := createdAt, updatedAt := now }
      t.modelRoutingPolicies }

def deleteModelRoutingPolicyInner (policyId : Uuid) : Option ConfigTables :=
  if (lookupBy (·.id) t.modelRoutingPolicies policyId).isNone then none
  else some
    { t with modelRoutingPolicies := deleteBy (·.id) policyId t.modelRoutingPolicies }

def updateClaudeCodeRoutingSettingsInner (now : DateTime)
    (req : UpdateClaudeCodeRoutingSettingsRequest) : ConfigTables :=
  let effortRouting := req.effortRouting.getD
    (t.loadClaudeCodeRoutingSettingsInner now).effortRouting
  { t with
    claudeCodeRoutingSettings := some
      { enabled := req.enabled
        opusTargetModel := Text.trimmed? req.opusTargetModel
        sonnetTargetModel := Text.trimmed? req.sonnetTargetModel
        haikuTargetModel := Text.trimmed? req.haikuTargetModel
        effortRouting := normalizeClaudeCodeEffortRouting effortRouting
        updatedAt := now } }

/-- The numbers must fit into the columns. -/
def updateUpstreamErrorLearningSettingsInner (now : DateTime)
    (req : UpdateAiErrorLearningSettingsRequest) : Option ConfigTables :=
  if 2 ^ 63 ≤ req.firstSeenTimeoutMs ∨ 2 ^ 31 ≤ req.reviewHitThreshold then none
  else some
    { t with
      upstreamErrorLearningSettings := some
        { enabled := req.enabled, firstSeenTimeoutMs := req.firstSeenTimeoutMs
          reviewHitThreshold := req.reviewHitThreshold, updatedAt := some now } }

/-- A template with a known fingerprint keeps its id and the time it was first seen;
a new one needs an id that is not taken. -/
def saveUpstreamErrorTemplateInner (template : UpstreamErrorTemplateRecord) :
    Option ConfigTables :=
  let template := { template with
    fingerprint := Text.trim template.fingerprint
    provider := Text.trim template.provider
    semanticErrorCode := Text.trim template.semanticErrorCode
    representativeSamples := normalizeRepresentativeSamples template.representativeSamples }
  if 2 ^ 63 ≤ template.hitCount then none
  else match lookupBy (·.fingerprint) t.upstreamErrorTemplates template.fingerprint with
    | some existing => some
        { t with
          upstreamErrorTemplates := upsertBy (·.fingerprint)
            { template with id := existing.id, firstSeenAt := existing.firstSeenAt }
            t.upstreamErrorTemplates }
    | none =>
      if (lookupBy (·.id) t.upstreamErrorTemplates template.id).isSome then none
      else some { t with upstreamErrorTemplates := t.upstreamErrorTemplates ++ [template] }

def overrideKey (record : BuiltinErrorTemplateOverrideRecord) :
    BuiltinErrorTemplateKind × String :=
  (record.kind, record.code)

def saveBuiltinErrorTemplateOverrideInner (record : BuiltinErrorTemplateOverrideRecord) :
    ConfigTables :=
  { t with
    builtinErrorTemplateOverrides := upsertBy overrideKey
      { record with code := Text.trim record.code } t.builtinErrorTemplateOverrides }

def deleteBuiltinErrorTemplateOverrideInner (kind : BuiltinErrorTemplateKind)
    (code : String) : ConfigTables :=
  { t with
    builtinErrorTemplateOverrides :=
      deleteBy overrideKey (kind, Text.trim code) t.builtinErrorTemplateOverrides }

def updateOutboundProxyPoolSettingsInner (now : DateTime) (enabled : Bool)
    (failMode : ProxyFailMode) : ConfigTables :=
  { t with
    outboundProxyPoolSettings := some
      { enabled := enabled, failMode := failMode, updatedAt := now } }

def createOutboundProxyNodeInner (freshId : Uuid) (now : DateTime)
    (req : CreateOutboundProxyNodeRequest) : Option ConfigTables :=
  if (lookupBy (·.id) t.outboundProxyNodes freshId).isSome then none
  else some
    { t with
      outboundProxyNodes := t.outboundProxyNodes ++
        [{ id := freshId, label := req.label, proxyUrl := req.proxyUrl
           enabled := req.enabled.getD true, weight := req.weight.getD 1
           lastTestStatus := none, lastLatencyMs := none, lastError := none
           lastTestedAt := none, createdAt := now, updatedAt := now }] }

/-- Rewrites the node with the given id. -/
def updateNode (nodeId : Uuid) (g : OutboundProxyNode → OutboundProxyNode) :
    Option ConfigTables :=
  (lookupBy (·.id) t.outboundProxyNodes nodeId).map fun node =>
    { t with outboundProxyNodes := upsertBy (·.id) (g node) t.outboundProxyNodes }

def updateOutboundProxyNodeInner (nodeId : Uuid) (now : DateTime)
    (req : UpdateOutboundProxyNodeRequest) : Option ConfigTables :=
  t.updateNode nodeId fun existing =>
    { existing with
      label := req.label.getD existing.label
      proxyUrl := req.proxyUrl.getD existing.proxyUrl
      enabled := req.enabled.getD existing.enabled
      weight := req.weight.getD existing.weight
      updatedAt := now }

def deleteOutboundProxyNodeInner (nodeId : Uuid) : Option ConfigTables :=
  if (lookupBy (·.id) t.outboundProxyNodes nodeId).isNone then none
  else some { t with outboundProxyNodes := deleteBy (·.id) nodeId t.outboundProxyNodes }

/-- A latency beyond the range of the column is cut to its maximum. -/
def recordOutboundProxyTestResultInner (nodeId : Uuid) (now : DateTime)
    (lastTestStatus : Option String) (lastLatencyMs : Option Nat)
    (lastError : Option String) (lastTestedAt : Option DateTime) : Option ConfigTables :=
  t.updateNode nodeId fun existing =>
    { existing with
      lastTestStatus := lastTestStatus
      lastLatencyMs := lastLatencyMs.map fun value => min value (2 ^ 63 - 1)
      lastError := lastError
      lastTestedAt := lastTestedAt
      updatedAt := now }

end Writers

def apply (t : ConfigTables) : ConfigOperation → Option ConfigTables
  | .upsertRoutingProfile freshId now req => some (t.upsertRoutingProfileInner freshId now req)
  | .deleteRoutingProfile profileId => t.deleteRoutingProfileInner profileId
  | .upsertModelRoutingPolicy freshId now req =>
    some (t.upsertModelRoutingPolicyInner freshId now req)
  | .deleteModelRoutingPolicy policyId => t.deleteModelRoutingPolicyInner policyId
  | .updateClaudeCodeRoutingSettings now req =>
    some (t.updateClaudeCodeRoutingSettingsInner now req)
  | .updateUpstreamErrorLearningSettings now req =>
    t.updateUpstreamErrorLearningSettingsInner now req
  | .saveUpstreamErrorTemplate template => t.saveUpstreamErrorTemplateInner template
  | .saveBuiltinErrorTemplateOverride record =>
    some (t.saveBuiltinErrorTemplateOverrideInner record)
  | .deleteBuiltinErrorTemplateOverride kind code =>
    some (t.deleteBuiltinErrorTemplateOverrideInner kind code)
  | .updateOutboundProxyPoolSettings now enabled failMode =>
    some (t.updateOutboundProxyPoolSettingsInner now enabled failMode)
  | .createOutboundProxyNode freshId now req => t.createOutboundProxyNodeInner freshId now req
  | .updateOutboundProxyNode nodeId now req => t.updateOutboundProxyNodeInner nodeId now req
  | .deleteOutboundProxyNode nodeId => t.deleteOutboundProxyNodeInner nodeId
  | .recordOutboundProxyTestResult nodeId now status latency error testedAt =>
    t.recordOutboundProxyTestResultInner nodeId now status latency error testedAt

end ConfigTables

/-! ## Steps of the store -/

/-- A step of the store. The functions that change profiles, policies or the models of
an account publish a version of the plan in a step of its own; the rest of the control
plane only marks the revision as dirty. -/
inductive StoreOperation where
  | account (op : AccountOperation)
  | config (op : ConfigOperation)
  | publishCurrentRoutingPlanVersion (versionId : Uuid) (publishedAt : DateTime)
      (reason : Option String)
  | bumpRevision
  | flushSnapshotRevision

namespace Database

variable (cfg : StoreConfig)

/-- The rows of the outbox that a transaction appends. -/
def newRows (sequence : Nat) (events : Events) : List OutboxRow :=
  events.mapIdx fun i event =>
    { id := sequence + i + 1, eventType := event.1, accountId := event.2 }

theorem newRows_id {sequence : Nat} {events : Events} {row : OutboxRow}
    (h : row ∈ newRows sequence events) :
    sequence < row.id ∧ row.id ≤ sequence + events.length := by
  obtain ⟨i, hi, rfl⟩ := List.mem_mapIdx.1 h
  dsimp only
  omega

def commit (db : Database) (tables : Tables) (events : Events) : Database where
  tables := tables
  outbox := db.outbox ++ newRows db.outboxSequence events
  outboxSequence := db.outboxSequence + events.length
  revision := db.revision
  dirty := true
  outbox_le := by
    intro row hrow
    rcases List.mem_append.1 hrow with hrow | hrow
    · exact (db.outbox_le row hrow).trans (Nat.le_add_right _ _)
    · exact (newRows_id hrow).2

def publishCurrentRoutingPlanVersionInner (db : Database) (versionId : Uuid)
    (publishedAt : DateTime) (reason : Option String) : Database :=
  let t := db.tables
  let plan := compileRoutingPlanFromState (t.accounts.loadSnapshotAccountsInner cfg publishedAt)
    (t.accounts.loadAccountRoutingTraitsInner publishedAt) t.config.listRoutingProfilesInner
    t.config.listModelRoutingPoliciesInner versionId publishedAt reason
  if plan.isNone then db
  else
    { db with
      tables := { t with
        routingPlanVersions := t.routingPlanVersions ++
          [{ id := versionId, reason := reason, publishedAt := publishedAt }] } }

def step (db : Database) : StoreOperation → Database
  | .account op =>
    match db.tables.accounts.apply cfg op with
    | none => db
    | some (accounts, events) => db.commit { db.tables with accounts := accounts } events
  | .config op =>
    match db.tables.config.apply op with
    | none => db
    | some config => db.commit { db.tables with config := config } [refreshEvent]
  | .publishCurrentRoutingPlanVersion versionId publishedAt reason =>
    db.publishCurrentRoutingPlanVersionInner cfg versionId publishedAt reason
  | .bumpRevision => { db with dirty := true }
  | .flushSnapshotRevision =>
    if db.dirty then { db with revision := db.revision + 1, dirty := false } else db

end Database

end CodexPool
