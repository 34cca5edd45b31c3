import CodexPool.DataPlane.Router
import CodexPool.Lib.Keyed

/-!
# Snapshots in the data plane

A data plane takes its configuration from the control plane: a full snapshot
replaces all of it, and the events that follow patch it one after the other. The
waking of the requests that wait for a route is left out.
-/

namespace CodexPool

open Keyed

/-! ## The accounts of a router -/

namespace Router

def accountIds (r : Router) : List Uuid := r.accounts.map (·.id)

/-- Forgets what has been learnt of the accounts that are listed no more. -/
def replaceAccounts (r : Router) (accounts : List UpstreamAccount) : Router :=
  let validIds := accounts.map (·.id)
  { r with
    accounts := accounts
    cursor := 0
    accountTraits := retain validIds r.accountTraits
    health := retain validIds r.health
    recentSuccess := retain validIds r.recentSuccess
    stickySessions := r.stickySessions.filter fun item => item.2.accountId ∈ validIds }

def replaceAccountTraits (r : Router) (accountTraits : List AccountRoutingTraits) :
    Router :=
  { r with
    accountTraits := collectBy (·.accountId)
      (accountTraits.filter fun item => item.accountId ∈ r.accountIds) }

def replaceCompiledRoutingPlan (r : Router) (plan : Option CompiledRoutingPlan) :
    Router :=
  { r with compiledRoutingPlan := plan }

/-- The plan of an event about an account: it counts only when there is one. -/
def replaceCompiledRoutingPlanIfSome (r : Router) (plan : Option CompiledRoutingPlan) :
    Router :=
  if plan.isSome then r.replaceCompiledRoutingPlan plan else r

/-- What `upsertAccount` does with a disabled account and `deleteAccount` with
the one it removes. -/
def forgetAccount (r : Router) (accountId : Uuid) : Router :=
  { r with
    accountTraits := Function.update r.accountTraits accountId none
    health := Function.update r.health accountId none
    recentSuccess := Function.update r.recentSuccess accountId none
    stickySessions := r.stickySessions.filter fun item => item.2.accountId ≠ accountId }

def upsertAccount (r : Router) (account : UpstreamAccount) : Router :=
  let replaced := account.id ∈ r.accountIds
  let r' := { r with
    accounts := upsertBy (·.id) account r.accounts
    cursor := if replaced then r.cursor else 0 }
  if account.enabled then r' else r'.forgetAccount account.id

/-- Also says whether there was an account to remove. -/
def deleteAccount (r : Router) (accountId : Uuid) : Router × Bool :=
  if accountId ∈ r.accountIds then
    ({ r with accounts := deleteBy (·.id) accountId r.accounts }.forgetAccount accountId,
      true)
  else (r, false)

def account (r : Router) (id : Uuid) : Option UpstreamAccount :=
  lookupBy (·.id) r.accounts id

@[simp] theorem replaceCompiledRoutingPlanIfSome_accounts (r : Router)
    (plan : Option CompiledRoutingPlan) :
    (r.replaceCompiledRoutingPlanIfSome plan).accounts = r.accounts := by
  unfold replaceCompiledRoutingPlanIfSome
  split <;> rfl

@[simp] theorem replaceCompiledRoutingPlanIfSome_accountTraits (r : Router)
    (plan : Option CompiledRoutingPlan) :
    (r.replaceCompiledRoutingPlanIfSome plan).accountTraits = r.accountTraits := by
  unfold replaceCompiledRoutingPlanIfSome
  split <;> rfl

theorem replaceCompiledRoutingPlanIfSome_compiledRoutingPlan (r : Router)
    (plan : Option CompiledRoutingPlan) :
    (r.replaceCompiledRoutingPlanIfSome plan).compiledRoutingPlan =
      if plan.isSome then plan else r.compiledRoutingPlan := by
  unfold replaceCompiledRoutingPlanIfSome
  split <;> rfl

@[simp] theorem account_replaceCompiledRoutingPlanIfSome (r : Router)
    (plan : Option CompiledRoutingPlan) :
    (r.replaceCompiledRoutingPlanIfSome plan).account = r.account := by
  unfold Router.account
  rw [replaceCompiledRoutingPlanIfSome_accounts]

theorem deleteAccount_accounts (r : Router) (accountId : Uuid) :
    (r.deleteAccount accountId).1.accounts = deleteBy (·.id) accountId r.accounts := by
  unfold deleteAccount
  by_cases h : accountId ∈ r.accountIds
  · rw [if_pos h]
    rfl
  · rw [if_neg h]
    refine (List.filter_eq_self.2 fun a ha => ?_).symm
    simp only [ne_eq, decide_eq_true_eq]
    rintro rfl
    exact h (List.mem_map_of_mem ha)

theorem upsertAccount_accounts (r : Router) (account : UpstreamAccount) :
    (r.upsertAccount account).accounts = upsertBy (·.id) account r.accounts := by
  unfold upsertAccount
  by_cases h : account.enabled = true <;> simp [h, forgetAccount]

@[simp] theorem account_upsertAccount (r : Router) (account : UpstreamAccount) :
    (r.upsertAccount account).account =
      Function.update r.account account.id (some account) := by
  unfold Router.account
  rw [upsertAccount_accounts, lookupBy_upsertBy]

@[simp] theorem account_deleteAccount (r : Router) (accountId : Uuid) :
    (r.deleteAccount accountId).1.account = Function.update r.account accountId none := by
  unfold Router.account
  rw [deleteAccount_accounts, lookupBy_deleteBy]

@[simp] theorem upsertAccount_compiledRoutingPlan (r : Router) (account : UpstreamAccount) :
    (r.upsertAccount account).compiledRoutingPlan = r.compiledRoutingPlan := by
  unfold upsertAccount
  by_cases h : account.enabled = true <;> simp [h, forgetAccount]

@[simp] theorem deleteAccount_compiledRoutingPlan (r : Router) (accountId : Uuid) :
    (r.deleteAccount accountId).1.compiledRoutingPlan = r.compiledRoutingPlan := by
  unfold deleteAccount
  by_cases h : accountId ∈ r.accountIds <;> simp [h, forgetAccount]

theorem upsertAccount_accountTraits (r : Router) (account : UpstreamAccount) :
    (r.upsertAccount account).accountTraits =
      if account.enabled then r.accountTraits
      else Function.update r.accountTraits account.id none := by
  unfold upsertAccount
  by_cases h : account.enabled = true <;> simp [h, forgetAccount]

def TraitsListed (r : Router) : Prop :=
  ∀ id, r.account id = none → r.accountTraits id = none

theorem TraitsListed.deleteAccount_accountTraits {r : Router} (h : r.TraitsListed)
    (accountId : Uuid) :
    (r.deleteAccount accountId).1.accountTraits =
      Function.update r.accountTraits accountId none := by
  unfold deleteAccount
  by_cases hmem : accountId ∈ r.accountIds
  · rw [if_pos hmem]
    rfl
  · have hnone : r.account accountId = none := lookupBy_eq_none_iff.2 hmem
    rw [if_neg hmem, Function.update_eq_self_iff.2 (h accountId hnone).symm]

end Router

/-! ## The outbound proxies -/

structure OutboundProxyRuntime where
  settings : OutboundProxyPoolSettings
  nodes : List OutboundProxyNode
  unavailableUntil : Uuid → Option Nat

def OutboundProxyRuntime.replaceConfig (o : OutboundProxyRuntime)
    (settings : OutboundProxyPoolSettings) (nodes : List OutboundProxyNode) :
    OutboundProxyRuntime :=
  { settings := settings
    nodes := nodes
    unavailableUntil := retain (nodes.map (·.id)) o.unavailableUntil }

/-! ## The state of a data plane -/

structure AppState where
  router : Router
  claudeCodeRoutingSettings : ClaudeCodeRoutingSettings
  aiErrorLearningSettings : AiErrorLearningSettings
  approvedUpstreamErrorTemplates : String → Option UpstreamErrorTemplateRecord
  builtinErrorTemplates : String → Option BuiltinErrorTemplateRecord
  outboundProxyRuntime : OutboundProxyRuntime
  snapshotRevision : Nat
  snapshotCursor : Nat
  snapshotRemoteCursor : Nat

/-- The state in which a data plane starts, with the accounts of its configuration. -/
def AppState.initial (now : DateTime) (accounts : List UpstreamAccount) : AppState where
  router := Router.new accounts
  claudeCodeRoutingSettings := defaultClaudeCodeRoutingSettings now
  aiErrorLearningSettings := {}
  approvedUpstreamErrorTemplates := fun _ => none
  builtinErrorTemplates := fun _ => none
  outboundProxyRuntime :=
    { settings := { enabled := false, failMode := .strictProxy, updatedAt := now }
      nodes := [], unavailableUntil := fun _ => none }
  snapshotRevision := 0
  snapshotCursor := 0
  snapshotRemoteCursor := 0

def builtinErrorTemplateKey (kind : BuiltinErrorTemplateKind) (code : String) : String :=
  let kind := match kind with
    | .gatewayError => "gateway_error"
    | .heuristicUpstream => "heuristic_upstream"
  kind ++ ":" ++ code

def approvedTemplateMap (templates : List UpstreamErrorTemplateRecord) :
    String → Option UpstreamErrorTemplateRecord :=
  collectBy (·.fingerprint) templates

def builtinTemplateMap (templates : List BuiltinErrorTemplateRecord) :
    String → Option BuiltinErrorTemplateRecord :=
  collectBy (fun template => builtinErrorTemplateKey template.kind template.code) templates

namespace AppState

/-- A snapshot is not applied when it is older than the revision of the state, or
of the same revision with a cursor that is not beyond that of the state. -/
def isStale (app : AppState) (snapshot : DataPlaneSnapshot) : Bool :=
  snapshot.revision < app.snapshotRevision ||
    (snapshot.revision = app.snapshotRevision && snapshot.cursor ≤ app.snapshotCursor)

def applySnapshot (app : AppState) (snapshot : DataPlaneSnapshot) : AppState :=
  if app.isStale snapshot then app
  else
    { router :=
        ((app.router.replaceAccounts snapshot.accounts).replaceAccountTraits
          snapshot.accountTraits).replaceCompiledRoutingPlan snapshot.compiledRoutingPlan
      claudeCodeRoutingSettings := snapshot.claudeCodeRoutingSettings
      aiErrorLearningSettings := snapshot.aiErrorLearningSettings
      approvedUpstreamErrorTemplates :=
        approvedTemplateMap snapshot.approvedUpstreamErrorTemplates
      builtinErrorTemplates := builtinTemplateMap snapshot.builtinErrorTemplates
      outboundProxyRuntime :=
        app.outboundProxyRuntime.replaceConfig snapshot.outboundProxyPoolSettings
          snapshot.outboundProxyNodes
      snapshotRevision := snapshot.revision
      snapshotCursor := snapshot.cursor
      snapshotRemoteCursor := snapshot.cursor }

/-- The settings that an event carries; what it does not carry stays. -/
def applyEventSettings (app : AppState) (event : DataPlaneSnapshotEvent) : AppState :=
  { app with
    aiErrorLearningSettings :=
      event.aiErrorLearningSettings.getD app.aiErrorLearningSettings
    claudeCodeRoutingSettings :=
      event.claudeCodeRoutingSettings.getD app.claudeCodeRoutingSettings
    approvedUpstreamErrorTemplates :=
      (event.approvedUpstreamErrorTemplates.map approvedTemplateMap).getD
        app.approvedUpstreamErrorTemplates
    builtinErrorTemplates :=
      (event.builtinErrorTemplates.map builtinTemplateMap).getD app.builtinErrorTemplates
    outboundProxyRuntime :=
      match event.outboundProxyPoolSettings, event.outboundProxyNodes with
      | some settings, nodes =>
        app.outboundProxyRuntime.replaceConfig settings
          (nodes.getD app.outboundProxyRuntime.nodes)
      | none, some nodes =>
        app.outboundProxyRuntime.replaceConfig app.outboundProxyRuntime.settings nodes
      | none, none => app.outboundProxyRuntime }

/-- The plan of an event about an account replaces the one of the router only
when there is one; that of a refresh always does. -/
def applyEventRoute (r : Router) (event : DataPlaneSnapshotEvent) : Router :=
  match event.eventType with
  | .accountUpsert =>
    let r := match event.account with
      | some account => r.upsertAccount account
      | none => (r.deleteAccount event.accountId).1
    r.replaceCompiledRoutingPlanIfSome event.compiledRoutingPlan
  | .accountDelete =>
    (r.deleteAccount event.accountId).1.replaceCompiledRoutingPlanIfSome
      event.compiledRoutingPlan
  | .routingPlanRefresh => r.replaceCompiledRoutingPlan event.compiledRoutingPlan

def applyEvent (app : AppState) (event : DataPlaneSnapshotEvent) : AppState :=
  let app := app.applyEventSettings event
  { app with router := applyEventRoute app.router event }

/-- Also returns the cursor that is reached. -/
def applySnapshotEvents (app : AppState) (response : DataPlaneSnapshotEventsResponse) :
    AppState × Nat :=
  let maxCursor := response.events.foldl (fun c event => max c event.id) response.cursor
  let remoteCursor := response.events.foldl (fun c event => max c event.id)
    (max response.highWatermark response.cursor)
  let app' := response.events.foldl applyEvent app
  let app' := { app' with
    snapshotCursor := if app'.snapshotCursor < maxCursor then maxCursor
      else app'.snapshotCursor
    snapshotRemoteCursor := if app'.snapshotRemoteCursor < remoteCursor then remoteCursor
      else app'.snapshotRemoteCursor }
  (app', app'.snapshotCursor)

/-! ## What a full snapshot leaves -/

/-- A snapshot is newer than a state when its revision is, or when it has the same
revision and its cursor is beyond that of the state. -/
def Precedes (app : AppState) (snapshot : DataPlaneSnapshot) : Prop :=
  app.snapshotRevision < snapshot.revision ∨
    app.snapshotRevision = snapshot.revision ∧ app.snapshotCursor < snapshot.cursor

instance (app : AppState) (snapshot : DataPlaneSnapshot) :
    Decidable (app.Precedes snapshot) :=
  inferInstanceAs (Decidable (_ ∨ _ ∧ _))

theorem isStale_eq_false_iff {app : AppState} {snapshot : DataPlaneSnapshot} :
    app.isStale snapshot = false ↔ app.Precedes snapshot := by
  simp only [isStale, Precedes, Bool.or_eq_false_iff, decide_eq_false_iff_not,
    Bool.and_eq_false_iff]
  omega

theorem applySnapshot_of_not_precedes {app : AppState} {snapshot : DataPlaneSnapshot}
    (h : ¬ app.Precedes snapshot) : app.applySnapshot snapshot = app := by
  rw [applySnapshot, if_pos]
  rw [← isStale_eq_false_iff] at h
  exact (Bool.not_eq_false _).mp h

/-- A newer snapshot replaces the configuration and both counters. -/
theorem applySnapshot_of_precedes {app : AppState} {snapshot : DataPlaneSnapshot}
    (h : app.Precedes snapshot) :
    app.applySnapshot snapshot =
      { router :=
          ((app.router.replaceAccounts snapshot.accounts).replaceAccountTraits
            snapshot.accountTraits).replaceCompiledRoutingPlan snapshot.compiledRoutingPlan
        claudeCodeRoutingSettings := snapshot.claudeCodeRoutingSettings
        aiErrorLearningSettings := snapshot.aiErrorLearningSettings
        approvedUpstreamErrorTemplates :=
          approvedTemplateMap snapshot.approvedUpstreamErrorTemplates
        builtinErrorTemplates := builtinTemplateMap snapshot.builtinErrorTemplates
        outboundProxyRuntime :=
          app.outboundProxyRuntime.replaceConfig snapshot.outboundProxyPoolSettings
            snapshot.outboundProxyNodes
        snapshotRevision := snapshot.revision
        snapshotCursor := snapshot.cursor
        snapshotRemoteCursor := snapshot.cursor } := by
  rw [applySnapshot, isStale_eq_false_iff.2 h]
  rfl

end AppState

/-- The traits that a snapshot gives of the accounts it lists. -/
def DataPlaneSnapshot.traits (snapshot : DataPlaneSnapshot) :
    Uuid → Option AccountRoutingTraits :=
  retain (snapshot.accounts.map (·.id)) (collectBy (·.accountId) snapshot.accountTraits)

namespace AppState

theorem applySnapshot_accountTraits {app : AppState} {snapshot : DataPlaneSnapshot}
    (h : app.Precedes snapshot) :
    (app.applySnapshot snapshot).router.accountTraits = snapshot.traits := by
  rw [applySnapshot_of_precedes h]
  exact collectBy_filter (snapshot.accounts.map (·.id)) snapshot.accountTraits

theorem traitsListed_applySnapshot {app : AppState} {snapshot : DataPlaneSnapshot}
    (h : app.Precedes snapshot) : (app.applySnapshot snapshot).router.TraitsListed := by
  intro id hnone
  have haccounts : (app.applySnapshot snapshot).router.accounts = snapshot.accounts := by
    rw [applySnapshot_of_precedes h]
    rfl
  have hmem : id ∉ snapshot.accounts.map (·.id) := by
    rw [Router.account, haccounts] at hnone
    exact lookupBy_eq_none_iff.1 hnone
  rw [applySnapshot_accountTraits h, DataPlaneSnapshot.traits, retain, if_neg hmem]

/-! ## What an event does to the router -/

/-- The account that an event sets, `none` when it removes it. -/
def eventValue (event : DataPlaneSnapshotEvent) : Option UpstreamAccount :=
  match event.eventType with
  | .accountUpsert => event.account
  | .accountDelete | .routingPlanRefresh => none

theorem account_applyEventRoute (r : Router) (event : DataPlaneSnapshotEvent)
    (hid : ∀ account, event.account = some account → account.id = event.accountId) :
    (applyEventRoute r event).account =
      if event.eventType = .routingPlanRefresh then r.account
      else Function.update r.account event.accountId (eventValue event) := by
  unfold applyEventRoute eventValue
  cases event.eventType with
  | accountUpsert =>
      cases haccount : event.account with
      | none => simp
      | some account => simp [hid account haccount]
  | accountDelete => simp
  | routingPlanRefresh => rfl

theorem compiledRoutingPlan_applyEventRoute (r : Router) (event : DataPlaneSnapshotEvent) :
    (applyEventRoute r event).compiledRoutingPlan =
      if event.compiledRoutingPlan.isSome ∨ event.eventType = .routingPlanRefresh then
        event.compiledRoutingPlan
      else r.compiledRoutingPlan := by
  unfold applyEventRoute
  cases event.eventType with
  | accountUpsert =>
      cases event.account with
      | none => simp [Router.replaceCompiledRoutingPlanIfSome_compiledRoutingPlan]
      | some account => simp [Router.replaceCompiledRoutingPlanIfSome_compiledRoutingPlan]
  | accountDelete => simp [Router.replaceCompiledRoutingPlanIfSome_compiledRoutingPlan]
  | routingPlanRefresh => simp [Router.replaceCompiledRoutingPlan]

/-- The event removes the account `id`, or finds it disabled. -/
def dropsTraits (event : DataPlaneSnapshotEvent) (id : Uuid) : Bool :=
  event.eventType ≠ .routingPlanRefresh && event.accountId = id &&
    !(eventValue event).any (·.enabled)

/-- No event brings traits; those of an account that is removed or disabled are dropped. -/
theorem accountTraits_applyEventRoute {r : Router} (hr : r.TraitsListed)
    {event : DataPlaneSnapshotEvent}
    (hid : ∀ account, event.account = some account → account.id = event.accountId) (id : Uuid) :
    (applyEventRoute r event).accountTraits id =
      if dropsTraits event id then none else r.accountTraits id := by
  have hdelete : (r.deleteAccount event.accountId).1.accountTraits id =
      if event.accountId = id then none else r.accountTraits id := by
    rw [hr.deleteAccount_accountTraits, Function.update_apply]
    exact if_congr eq_comm rfl rfl
  unfold applyEventRoute dropsTraits eventValue
  cases event.eventType with
  | accountUpsert =>
      cases haccount : event.account with
      | none => simpa using hdelete
      | some account =>
          dsimp only
          rw [Router.replaceCompiledRoutingPlanIfSome_accountTraits,
            Router.upsertAccount_accountTraits, hid account haccount]
          cases henabled : account.enabled with
          | true => simp [henabled]
          | false => simp [henabled, Function.update_apply, eq_comm (a := id)]
  | accountDelete => simpa using hdelete
  | routingPlanRefresh => rfl

theorem traitsListed_applyEventRoute {r : Router} (hr : r.TraitsListed)
    {event : DataPlaneSnapshotEvent}
    (hid : ∀ account, event.account = some account → account.id = event.accountId) :
    (applyEventRoute r event).TraitsListed := by
  intro id hnone
  rw [accountTraits_applyEventRoute hr hid]
  rw [account_applyEventRoute r event hid] at hnone
  split
  · rfl
  · rename_i hdrops
    refine hr id ?_
    by_cases hrefresh : event.eventType = .routingPlanRefresh
    · simpa [hrefresh] using hnone
    · rw [if_neg hrefresh, Function.update_apply] at hnone
      split at hnone
      · rename_i hid
        simp [dropsTraits, hrefresh, hid, hnone] at hdrops
      · exact hnone

theorem nodup_accountIds_applyEventRoute {r : Router} (h : r.accountIds.Nodup)
    (event : DataPlaneSnapshotEvent) : (applyEventRoute r event).accountIds.Nodup := by
  unfold applyEventRoute Router.accountIds
  cases event.eventType with
  | accountUpsert =>
      cases event.account with
      | none =>
          dsimp only
          rw [Router.replaceCompiledRoutingPlanIfSome_accounts, Router.deleteAccount_accounts]
          exact nodup_deleteBy h _
      | some account =>
          dsimp only
          rw [Router.replaceCompiledRoutingPlanIfSome_accounts, Router.upsertAccount_accounts]
          exact nodup_upsertBy h _
  | accountDelete =>
      dsimp only
      rw [Router.replaceCompiledRoutingPlanIfSome_accounts, Router.deleteAccount_accounts]
      exact nodup_deleteBy h _
  | routingPlanRefresh => exact h

/-! ## What events leave alone -/

@[simp] theorem applyEvent_snapshotCursor (app : AppState) (event : DataPlaneSnapshotEvent) :
    (app.applyEvent event).snapshotCursor = app.snapshotCursor := rfl

theorem foldl_applyEvent_snapshotCursor (events : List DataPlaneSnapshotEvent)
    (app : AppState) : (events.foldl applyEvent app).snapshotCursor = app.snapshotCursor := by
  induction events generalizing app with
  | nil => rfl
  | cons event events ih => rw [List.foldl_cons, ih, applyEvent_snapshotCursor]

theorem snapshotCursor_le_applySnapshotEvents (app : AppState)
    (response : DataPlaneSnapshotEventsResponse) :
    app.snapshotCursor ≤ (app.applySnapshotEvents response).1.snapshotCursor := by
  unfold applySnapshotEvents
  dsimp only
  rw [foldl_applyEvent_snapshotCursor]
  split <;> omega

end AppState

end CodexPool
