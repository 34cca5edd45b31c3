import CodexPool.ControlPlane.ApiKey
import CodexPool.ControlPlane.RoutingPlan
import CodexPool.DataPlane.Settle
import CodexPool.Lib.SortedLists
import CodexPool.Tenant.Pricing

/-!
# Which models a key may ask for

The data plane admits a request by the allowlist that came with the principal; the control
plane prices it by the policies of the key's group. Both read the same tables. An empty
allowlist admits every model and the names in it are compared without regard to case, so the
two answers differ on some requests; `modelChecksAgree_iff` says on which.
-/

namespace CodexPool

/-! ## The request policy of the data plane -/

structure ApiPrincipal where
  token : String
  tenantId : Option Uuid
  apiKeyId : Option Uuid
  apiKeyGroupId : Option Uuid
  apiKeyGroupName : Option String
  apiKeyGroupInvalid : Bool
  enabled : Bool
  keyIpAllowlist : List String
  keyModelAllowlist : List String
  tenantStatus : Option String
  tenantExpiresAt : Option DateTime
  balanceMicrocredits : Option Int

/-- The principal of a validated token. The balance is sent by the edition that bills only. -/
def ValidatedPrincipal.toApiPrincipal (principal : ValidatedPrincipal)
    (allowsCreditBilling : Bool) (token : String) : ApiPrincipal where
  token := token
  tenantId := some principal.tenantId
  apiKeyId := some principal.apiKeyId
  apiKeyGroupId := some principal.apiKeyGroupId
  apiKeyGroupName := some principal.apiKeyGroupName
  apiKeyGroupInvalid := principal.apiKeyGroupInvalid
  enabled := principal.enabled
  keyIpAllowlist := principal.keyIpAllowlist
  keyModelAllowlist := principal.keyModelAllowlist
  tenantStatus := principal.tenantStatus
  tenantExpiresAt := principal.tenantExpiresAt
  balanceMicrocredits := if allowsCreditBilling then principal.balanceMicrocredits else none

/-- The headers of a request whose values are text. -/
abbrev HeaderTexts := String → Option String

def extractClientIp (headers : HeaderTexts) : Option String :=
  Text.trimmed? ((headers "x-forwarded-for").map fun raw =>
    String.ofList (raw.toList.takeWhile (· ≠ ',')))

namespace ApiPrincipal

def enforceGroup (principal : ApiPrincipal) : Except ErrorReply Unit :=
  if principal.apiKeyGroupInvalid then
    .error ⟨403, "api_key_group_invalid",
      "api key group is unavailable; update the api key group assignment"⟩
  else .ok ()

def enforceTenant (principal : ApiPrincipal) (now : DateTime) : Except ErrorReply Unit :=
  if !eqIgnoreAsciiCase (principal.tenantStatus.getD "active") "active" then
    .error ⟨403, "tenant_inactive", "tenant is inactive"⟩
  else if principal.tenantExpiresAt.any (· ≤ now) then
    .error ⟨403, "tenant_expired", "tenant subscription/plan is expired"⟩
  else if principal.balanceMicrocredits.any (· ≤ 0) then
    .error ⟨402, "insufficient_credits", "tenant credits are insufficient"⟩
  else .ok ()

def enforceIpAllowlist (principal : ApiPrincipal) (headers : HeaderTexts) :
    Except ErrorReply Unit :=
  if principal.keyIpAllowlist.isEmpty then .ok ()
  else match extractClientIp headers with
    | none => .error ⟨403, "ip_not_allowed", "missing client IP for whitelist validation"⟩
    | some clientIp =>
      if principal.keyIpAllowlist.any (· = clientIp) then .ok ()
      else .error ⟨403, "ip_not_allowed", "request IP is not in api key allowlist"⟩

def enforceModelAllowlist (principal : ApiPrincipal) (model : Option String) :
    Except ErrorReply Unit :=
  if principal.keyModelAllowlist.isEmpty then .ok ()
  else match model with
    | none => .error ⟨400, "model_required", "model is required for model allowlist validation"⟩
    | some model =>
      if principal.keyModelAllowlist.any (eqIgnoreAsciiCase · model) then .ok ()
      else .error ⟨403, "model_not_allowed", "requested model is not in api key allowlist"⟩

/-- The checks that stand before the one of the model. -/
def enforceAccess (principal : ApiPrincipal) (now : DateTime) (headers : HeaderTexts) :
    Except ErrorReply Unit := do
  principal.enforceGroup
  principal.enforceTenant now
  principal.enforceIpAllowlist headers

end ApiPrincipal

/-- Of the parsed request only its model is read. -/
def enforcePrincipalRequestPolicy (now : DateTime) (principal : Option ApiPrincipal)
    (headers : HeaderTexts) (model : Option String) : Except ErrorReply Unit :=
  match principal with
  | none => .ok ()
  | some principal => do
    principal.enforceAccess now headers
    principal.enforceModelAllowlist model

namespace ApiPrincipal

variable {principal : ApiPrincipal}

theorem enforceGroup_eq_ok_iff :
    principal.enforceGroup = .ok () ↔ principal.apiKeyGroupInvalid = false := by
  unfold enforceGroup
  cases principal.apiKeyGroupInvalid <;> simp

theorem enforceGroup_of_enforceAccess {now : DateTime}
    {headers : HeaderTexts} (h : principal.enforceAccess now headers = .ok ()) :
    principal.apiKeyGroupInvalid = false := by
  apply enforceGroup_eq_ok_iff.1
  cases hgroup : principal.enforceGroup with
  | ok => rfl
  | error e => simp [enforceAccess, hgroup, bind, Except.bind] at h

theorem enforceModelAllowlist_eq_ok_iff {model : String} :
    principal.enforceModelAllowlist (some model) = .ok () ↔
      principal.keyModelAllowlist = [] ∨
        ∃ item ∈ principal.keyModelAllowlist, eqIgnoreAsciiCase item model = true := by
  unfold enforceModelAllowlist
  rcases hlist : principal.keyModelAllowlist with - | ⟨item, items⟩
  · simp
  · by_cases hany : (item :: items).any (eqIgnoreAsciiCase · model) = true
    · rw [if_neg (by simp)]
      simpa only [hany, if_true, true_iff, reduceCtorEq, false_or] using List.any_eq_true.1 hany
    · rw [if_neg (by simp)]
      simp only [hany, if_false, reduceCtorEq, false_or, false_iff]
      exact fun h => hany (List.any_eq_true.2 h)

end ApiPrincipal

theorem enforcePrincipalRequestPolicy_of_enforceAccess {principal : ApiPrincipal}
    {now : DateTime} {headers : HeaderTexts} (h : principal.enforceAccess now headers = .ok ())
    (model : Option String) :
    enforcePrincipalRequestPolicy now (some principal) headers model =
      principal.enforceModelAllowlist model := by
  simp only [enforcePrincipalRequestPolicy, h]
  rfl

/-! ## The tables that both checks read -/

/-- A row of `api_key_groups` with all its columns. -/
structure ApiKeyGroup extends ApiKeyGroupRecord where
  name : String
  isDefault : Bool
  updatedAt : DateTime

def ApiKeyGroup.row (group : ApiKeyGroup) : ApiKeyGroupRow where
  id := group.id
  name := group.name
  isDefault := group.isDefault
  enabled := group.enabled
  allowAllModels := group.allowAllModels
  deletedAt := group.deletedAt
  updatedAt := group.updatedAt

/-- The tables that keys are validated against and requests are priced by. A group has one
policy for a model at most. -/
structure AccessDb where
  hasher : ApiKeyTokenHasher
  tenants : List TenantRow
  balances : Uuid → Option Int
  apiKeys : List ApiKeyRow
  apiKeyTokens : List ApiKeyTokenRow
  issued : List (Uuid × String)
  groups : List ApiKeyGroup
  policies : List ApiKeyGroupModelPolicyRecord
  openaiModelsCatalog : List CatalogModel
  adminModelEntities : List String
  modelPricingOverrides : List ModelPricingOverride
  billingPricingRules : List BillingPricingRuleRecord
  policies_unique : (policies.map fun p => (p.groupId, p.modelId)).Nodup

namespace AccessDb

/-- What a validation of a token reads. -/
def keyDb (db : AccessDb) : KeyDb where
  hasher := db.hasher
  tenants := db.tenants
  balances := db.balances
  groups := db.groups.map ApiKeyGroup.row
  policies := db.policies.map fun p =>
    { groupId := p.groupId, modelId := p.modelId, enabled := p.enabled }
  catalogModels := db.openaiModelsCatalog.map (·.modelId) ++ db.adminModelEntities
  apiKeys := db.apiKeys
  apiKeyTokens := db.apiKeyTokens
  issued := db.issued

/-- What the pricing of a request reads. -/
def pricingTables (db : AccessDb) : PricingTables where
  modelPricingOverrides := db.modelPricingOverrides
  openaiModelsCatalog := db.openaiModelsCatalog
  billingPricingRules := db.billingPricingRules
  apiKeys := db.apiKeys.filterMap fun key => key.groupId.map (key.id, ·)
  apiKeyGroups := db.groups.map (·.toApiKeyGroupRecord)
  apiKeyGroupModelPolicies := db.policies

variable (db : AccessDb)

def HasPolicy (groupId : Uuid) (enabled : Bool) (model : String) : Prop :=
  ∃ p ∈ db.policies, p.groupId = groupId ∧ p.modelId = model ∧ p.enabled = enabled

def Permitted (group : ApiKeyGroupRow) (model : String) : Prop :=
  if group.allowAllModels then ¬ db.HasPolicy group.id false model
  else db.HasPolicy group.id true model

/-- The model is in the list that is sent with the group's keys. -/
def Offered (group : ApiKeyGroupRow) (model : String) : Prop :=
  if group.allowAllModels then
    model ∈ db.keyDb.catalogModels ∧ ¬ db.HasPolicy group.id false model
  else db.HasPolicy group.id true model

variable {db}

/-! ## The list that is sent -/

theorem mem_policyModels {groupId : Uuid} {model : String} (enabled : Bool)
    (on : GroupModelPolicyRow → Bool) (hon : ∀ p, on p = true ↔ p.enabled = enabled) :
    model ∈ (db.keyDb.policies.filter fun p => p.groupId = groupId && on p).map (·.modelId) ↔
      db.HasPolicy groupId enabled model := by
  simp only [keyDb, HasPolicy, List.mem_map, List.mem_filter, Bool.and_eq_true,
    decide_eq_true_eq, hon]
  constructor
  · rintro ⟨_, ⟨⟨p, hp, rfl⟩, hgroup, henabled⟩, hmodel⟩
    exact ⟨p, hp, hgroup, hmodel, henabled⟩
  · rintro ⟨p, hp, hgroup, hmodel, henabled⟩
    exact ⟨_, ⟨⟨p, hp, rfl⟩, hgroup, henabled⟩, hmodel⟩

variable {group : ApiKeyGroupRow}

theorem mem_groupModels {model : String} :
    model ∈ db.keyDb.groupModels group ↔ db.Offered group model := by
  unfold KeyDb.groupModels Offered
  by_cases hall : group.allowAllModels = true
  · rw [if_pos hall, if_pos hall, SortedLists.mem_eraseReps, List.mem_insertionSort,
      List.mem_filter,
      decide_eq_true_eq, mem_policyModels false (!·.enabled) (by simp)]
  · rw [if_neg hall, if_neg hall, List.mem_insertionSort,
      mem_policyModels true (·.enabled) (by simp)]

/-! ## The pricing of a request -/

variable {key : ApiKeyRow} {tenant : TenantRow}

theorem joined_eq_some {row : ApiKeyTokenRow}
    (h : db.keyDb.joined row = some (key, group, tenant)) :
    ∃ groupId, Keyed.lookupBy ApiKeyRow.id db.apiKeys row.apiKeyId = some key ∧
      key.groupId = some groupId ∧ db.keyDb.group? groupId = some group := by
  simp only [KeyDb.joined, Option.bind_eq_bind, Option.bind_eq_some_iff, Option.some.injEq,
    Prod.mk.injEq] at h
  rcases h with ⟨key', hkey, groupId, hgroupId, group', hgroup, tenant', -, hk, hg, -⟩
  rw [hk] at hkey hgroupId
  rw [hg] at hgroup
  exact ⟨groupId, hkey, hgroupId, hgroup⟩

theorem find?_apiKeys {id groupId : Uuid}
    (hkey : Keyed.lookupBy ApiKeyRow.id db.apiKeys id = some key)
    (hgroupId : key.groupId = some groupId) :
    db.pricingTables.apiKeys.find? (·.1 = id) = some (id, groupId) := by
  have hid := Keyed.key_of_lookupBy hkey
  change (db.apiKeys.filterMap fun key => key.groupId.map (key.id, ·)).find? _ = _
  rcases List.find?_eq_some_iff_append.1 hkey with ⟨-, before, after, heq, hbefore⟩
  have hnone : (before.filterMap fun key => key.groupId.map (key.id, ·)).find?
      (·.1 = id) = none := by
    rw [List.find?_eq_none]
    intro pair hpair
    rcases List.mem_filterMap.1 hpair with ⟨other, hother, hmap⟩
    rcases Option.map_eq_some_iff.1 hmap with ⟨g, -, rfl⟩
    simpa using hbefore other hother
  rw [heq, List.filterMap_append, List.find?_append, hnone, Option.none_or,
    List.filterMap_cons_some (by rw [hgroupId]; rfl), List.find?_cons_of_pos (by simpa using hid),
    hid]

theorem find?_apiKeyGroups {groupId : Uuid} (hgroup : db.keyDb.group? groupId = some group) :
    ∃ record : ApiKeyGroup, record.row = group ∧
      db.pricingTables.apiKeyGroups.find? (·.id = groupId) = some record.toApiKeyGroupRecord := by
  have hfind : (db.groups.map ApiKeyGroup.row).find? (·.id = groupId) = some group := hgroup
  rw [List.find?_map] at hfind
  rcases Option.map_eq_some_iff.1 hfind with ⟨record, hrecord, hrow⟩
  refine ⟨record, hrow, ?_⟩
  change (db.groups.map (·.toApiKeyGroupRecord)).find? _ = _
  rw [List.find?_map]
  exact Option.map_eq_some_iff.2 ⟨record, hrecord, rfl⟩

/-- A key that is joined with its group is one that pricing finds the same group for. -/
theorem fetchApiKeyGroupForApiKey_of_joined {row : ApiKeyTokenRow}
    (h : db.keyDb.joined row = some (key, group, tenant)) :
    ∃ record : ApiKeyGroup, record.row = group ∧
      db.pricingTables.fetchApiKeyGroupForApiKey key.id = .ok record.toApiKeyGroupRecord := by
  rcases joined_eq_some h with ⟨groupId, hkey, hgroupId, hgroup⟩
  rcases find?_apiKeyGroups hgroup with ⟨record, hrow, hrecord⟩
  refine ⟨record, hrow, ?_⟩
  rw [Keyed.key_of_lookupBy hkey]
  simp only [PricingTables.fetchApiKeyGroupForApiKey, find?_apiKeys hkey hgroupId,
    Option.bind_eq_bind, Option.bind_some, hrecord]

theorem fetchApiKeyGroupPolicyForModel_iff (groupId : Uuid) (enabled : Bool) (model : String) :
    (∃ p, db.pricingTables.fetchApiKeyGroupPolicyForModel groupId model = some p ∧
      p.enabled = enabled) ↔ db.HasPolicy groupId enabled model := by
  constructor
  · rintro ⟨p, hp, henabled⟩
    have hkey := List.find?_some hp
    rw [decide_eq_true_eq] at hkey
    exact ⟨p, List.mem_of_find?_eq_some hp, hkey.1, hkey.2, henabled⟩
  · rintro ⟨p, hp, rfl, rfl, henabled⟩
    have hfound := Keyed.lookupBy_of_mem db.policies_unique hp
    simp only [Keyed.lookupBy, Prod.mk.injEq] at hfound
    exact ⟨p, hfound, henabled⟩

/-- Pricing succeeds on the models that the policies of a usable group permit. -/
theorem resolveApiKeyGroupPricing_isOk_iff {apiKeyId : Uuid} {record : ApiKeyGroup}
    (hgroup : db.pricingTables.fetchApiKeyGroupForApiKey apiKeyId =
      .ok record.toApiKeyGroupRecord)
    (husable : ensureApiKeyGroupIsUsable record.toApiKeyGroupRecord = .ok ())
    (model : String) (base : BillingPricingResolved) :
    (∃ r, db.pricingTables.resolveApiKeyGroupPricing apiKeyId model base = .ok r) ↔
      db.Permitted record.row model := by
  unfold PricingTables.resolveApiKeyGroupPricing Permitted
  rw [hgroup]
  simp only [bind, Except.bind, husable]
  change _ ↔ if record.allowAllModels = true then ¬ db.HasPolicy record.id false model
    else db.HasPolicy record.id true model
  rw [← fetchApiKeyGroupPolicyForModel_iff, ← fetchApiKeyGroupPolicyForModel_iff]
  by_cases hall : record.allowAllModels = true
  · rw [if_pos hall, if_pos hall]
    cases db.pricingTables.fetchApiKeyGroupPolicyForModel record.id model with
    | none => simp [pure, Except.pure]
    | some p => cases henabled : p.enabled <;> simp [henabled, pure, Except.pure]
  · rw [if_neg hall, if_neg hall]
    cases db.pricingTables.fetchApiKeyGroupPolicyForModel record.id model with
    | none => simp
    | some p => cases henabled : p.enabled <;> simp [Option.filter, henabled, pure, Except.pure]

/-! ## Agreement -/

/-- A request for the model passes the one check exactly when it passes the other. -/
def ModelChecksAgree (db : AccessDb) (now : DateTime) (principal : ApiPrincipal)
    (headers : HeaderTexts) (apiKeyId : Uuid) (model : String)
    (base : BillingPricingResolved) : Prop :=
  enforcePrincipalRequestPolicy now (some principal) headers (some model) = .ok () ↔
    ∃ r, db.pricingTables.resolveApiKeyGroupPricing apiKeyId model base = .ok r

/-- What the tables have to say of a model for the two checks to agree on it. A group that
permits all models has to offer some other model when this one is denied, and none that is
spelled like it; a model that is not denied has to be in the catalogue in some spelling,
unless nothing is offered. A group with a list of its own has to have a model on it, and
none that is this one in another spelling only. -/
def ModelRulesAlign (db : AccessDb) (group : ApiKeyGroupRow) (model : String) : Prop :=
  if group.allowAllModels then
    (db.HasPolicy group.id false model →
      (∃ x, db.Offered group x) ∧
        ∀ x, db.Offered group x → eqIgnoreAsciiCase x model = false) ∧
    (¬ db.HasPolicy group.id false model → (∃ x, db.Offered group x) →
      ∃ x, db.Offered group x ∧ eqIgnoreAsciiCase x model = true)
  else
    (∃ x, db.HasPolicy group.id true x) ∧
      ∀ x, db.HasPolicy group.id true x → eqIgnoreAsciiCase x model = true →
        db.HasPolicy group.id true model

theorem enforceModelAllowlist_toApiPrincipal_iff
    (husable : (group.deletedAt.isSome || !group.enabled) = false)
    (billing : Bool) (token model : String) :
    (((db.keyDb.principal key group tenant).toApiPrincipal billing token).enforceModelAllowlist
        (some model)) = .ok () ↔
      (∀ x, ¬ db.Offered group x) ∨
        ∃ x, db.Offered group x ∧ eqIgnoreAsciiCase x model = true := by
  have hlist : ((db.keyDb.principal key group tenant).toApiPrincipal billing
      token).keyModelAllowlist = db.keyDb.groupModels group := by
    simp only [ValidatedPrincipal.toApiPrincipal, KeyDb.principal, husable, Bool.false_eq_true,
      if_false]
  rw [ApiPrincipal.enforceModelAllowlist_eq_ok_iff, hlist, List.eq_nil_iff_forall_not_mem]
  simp only [mem_groupModels]

theorem admitted_iff_permitted_iff_align {model : String} :
    (((∀ x, ¬ db.Offered group x) ∨
        ∃ x, db.Offered group x ∧ eqIgnoreAsciiCase x model = true) ↔ db.Permitted group model) ↔
      db.ModelRulesAlign group model := by
  unfold Permitted ModelRulesAlign
  by_cases hall : group.allowAllModels = true
  · rw [if_pos hall, if_pos hall]
    by_cases hdenied : db.HasPolicy group.id false model
    · -- refused by pricing
      have hcase : ∀ x, (db.Offered group x → eqIgnoreAsciiCase x model = false) ↔
          ¬ (db.Offered group x ∧ eqIgnoreAsciiCase x model = true) := by
        intro x
        rw [not_and, Bool.not_eq_true]
      simp only [hdenied, not_true_eq_false, iff_false, not_or, not_forall, not_not, not_exists,
        true_implies, false_implies, and_true, hcase]
    · simp only [hdenied, not_false_eq_true, iff_true, false_implies, true_implies, true_and]
      rw [or_iff_not_imp_left, not_forall_not]
  · rw [if_neg hall, if_neg hall]
    have hoffered : ∀ x, db.Offered group x ↔ db.HasPolicy group.id true x := by
      intro x
      rw [Offered, if_neg hall]
    have hsame : db.HasPolicy group.id true model →
        ∃ x, db.HasPolicy group.id true x ∧ eqIgnoreAsciiCase x model = true := fun h =>
      ⟨model, h, decide_eq_true rfl⟩
    simp only [hoffered]
    constructor
    · intro h
      have hsome : ∃ x, db.HasPolicy group.id true x := by
        by_contra hnone
        exact hnone ⟨model, h.1 (Or.inl (not_exists.1 hnone))⟩
      exact ⟨hsome, fun x hx hx' => h.1 (Or.inr ⟨x, hx, hx'⟩)⟩
    · rintro ⟨⟨x, hx⟩, hspelled⟩
      constructor
      · rintro (hnone | ⟨y, hy, hy'⟩)
        · exact absurd hx (hnone x)
        · exact hspelled y hy hy'
      · exact fun h => Or.inr (hsame h)

/-- For a request that the checks before the one of its model let pass, the data plane and
the pricing agree on the model exactly when the tables align. -/
theorem modelChecksAgree_iff {row : ApiKeyTokenRow} {key : ApiKeyRow} {group : ApiKeyGroupRow}
    {tenant : TenantRow} (hjoined : db.keyDb.joined row = some (key, group, tenant))
    {now : DateTime} {headers : HeaderTexts} {billing : Bool} {token : String}
    (haccess : ((db.keyDb.principal key group tenant).toApiPrincipal billing
      token).enforceAccess now headers = .ok ())
    (model : String) (base : BillingPricingResolved) :
    db.ModelChecksAgree now ((db.keyDb.principal key group tenant).toApiPrincipal billing token)
        headers key.id model base ↔
      db.ModelRulesAlign group model := by
  have husable : (group.deletedAt.isSome || !group.enabled) = false :=
    ApiPrincipal.enforceGroup_of_enforceAccess haccess
  rcases fetchApiKeyGroupForApiKey_of_joined hjoined with ⟨record, rfl, hrecord⟩
  have hpriced : ensureApiKeyGroupIsUsable record.toApiKeyGroupRecord = .ok () := by
    rw [ensureApiKeyGroupIsUsable, if_neg]
    exact fun h => Bool.false_ne_true (husable.symm.trans h)
  rw [ModelChecksAgree, enforcePrincipalRequestPolicy_of_enforceAccess haccess,
    enforceModelAllowlist_toApiPrincipal_iff husable,
    resolveApiKeyGroupPricing_isOk_iff hrecord hpriced]
  exact admitted_iff_permitted_iff_align

/-! ## One group -/

def sampleTenantId : Uuid := ⟨"6a0f5c1e-2d34-4b7a-8e19-93c2d4f0a711"⟩
def sampleKeyId : Uuid := ⟨"b81d7e60-4f2c-4a95-bd03-1e6c5a9f2d22"⟩
def sampleGroupId : Uuid := ⟨"e4c39a72-0b58-4d1f-a6e7-58f1b3c7d933"⟩

def sampleHmacKey : ApiKeyHmacKey := ⟨"k1", List.replicate 32 7⟩

def sampleKeyRow : ApiKeyRow where
  id := sampleKeyId
  tenantId := sampleTenantId
  groupId := some sampleGroupId
  name := "ci"
  keyPrefix := "cp_5f0e7c19a"
  keyHash := "hmac-sha256:k1:5f0e"
  enabled := true
  createdAt := 0
  ipAllowlist := .arr []
  modelAllowlist := .arr []

def sampleTokenRow : ApiKeyTokenRow := ⟨"hmac-sha256:k1:5f0e", sampleKeyId⟩

def sampleTenantRow : TenantRow := ⟨sampleTenantId, some "active", none⟩

/-- A group with a list of its own. -/
def sampleGroup : ApiKeyGroup where
  id := sampleGroupId
  enabled := true
  allowAllModels := false
  inputMultiplierPpm := 1000000
  cachedInputMultiplierPpm := 1000000
  outputMultiplierPpm := 1000000
  deletedAt := none
  name := "restricted"
  isDefault := false
  updatedAt := 0

def samplePolicy (model : String) : ApiKeyGroupModelPolicyRecord where
  id := ⟨"0d5b8f3a-7c16-4e20-9a4d-c2e8f6b1a044"⟩
  groupId := sampleGroupId
  modelId := model
  enabled := true
  inputMultiplierPpm := 1000000
  cachedInputMultiplierPpm := 1000000
  outputMultiplierPpm := 1000000
  inputPriceMicrocredits := none
  cachedInputPriceMicrocredits := none
  outputPriceMicrocredits := none

/-- The sample's key and group, with a policy for one model or none. -/
def sampleAccessDb (model : Option String) : AccessDb where
  hasher := { active := sampleHmacKey, all := [sampleHmacKey], head_eq := rfl }
  tenants := [sampleTenantRow]
  balances := fun _ => some 1000000
  apiKeys := [sampleKeyRow]
  apiKeyTokens := [sampleTokenRow]
  issued := []
  groups := [sampleGroup]
  policies := model.toList.map samplePolicy
  openaiModelsCatalog := []
  adminModelEntities := ["gpt-5.4", "gpt-5.4-pro"]
  modelPricingOverrides := []
  billingPricingRules := []
  policies_unique := by cases model <;> simp

def samplePrincipal (model : Option String) : ApiPrincipal :=
  ((sampleAccessDb model).keyDb.principal sampleKeyRow sampleGroup.row
    sampleTenantRow).toApiPrincipal true "cp_5f0e7c19ab"

def sampleBasePricing : BillingPricingResolved := ⟨1250000, 125000, 10000000, "exact"⟩

theorem sampleAccessDb_joined (model : Option String) :
    (sampleAccessDb model).keyDb.joined sampleTokenRow =
      some (sampleKeyRow, sampleGroup.row, sampleTenantRow) := by
  simp [KeyDb.joined, KeyDb.group?, sampleAccessDb, keyDb, Keyed.lookupBy, sampleTokenRow,
    sampleKeyRow, sampleGroup, ApiKeyGroup.row, sampleTenantRow]

theorem samplePrincipal_enforceAccess (model : Option String) :
    (samplePrincipal model).enforceAccess 5 (fun _ => none) = .ok () := by
  have hactive : eqIgnoreAsciiCase "active" "active" = true := by decide
  simp only [ApiPrincipal.enforceAccess, ApiPrincipal.enforceGroup, ApiPrincipal.enforceTenant,
    ApiPrincipal.enforceIpAllowlist, samplePrincipal, ValidatedPrincipal.toApiPrincipal,
    KeyDb.principal, sampleGroup, ApiKeyGroup.row, sampleKeyRow, sampleTenantRow, sampleAccessDb,
    keyDb, Option.getD_some, hactive]
  rfl

theorem sampleAccessDb_agree :
    (sampleAccessDb (some "gpt-5.4")).ModelChecksAgree 5 (samplePrincipal (some "gpt-5.4"))
      (fun _ => none) sampleKeyId "gpt-5.4" sampleBasePricing := by
  apply (modelChecksAgree_iff (sampleAccessDb_joined _) (samplePrincipal_enforceAccess _)
    "gpt-5.4" sampleBasePricing).2
  rw [ModelRulesAlign, if_neg (by decide)]
  have hpolicy : (sampleAccessDb (some "gpt-5.4")).HasPolicy sampleGroup.row.id true "gpt-5.4" :=
    ⟨samplePolicy "gpt-5.4", List.mem_singleton_self _, rfl, rfl, rfl⟩
  exact ⟨⟨_, hpolicy⟩, fun _ _ _ => hpolicy⟩

/-- A group that lists no model: the data plane admits any model, pricing refuses it. -/
theorem emptyList_disagrees :
    ¬ (sampleAccessDb none).ModelChecksAgree 5 (samplePrincipal none) (fun _ => none)
      sampleKeyId "gpt-5.4" sampleBasePricing := by
  intro h
  rcases h.1 rfl with ⟨r, hr⟩
  have hrefused : (sampleAccessDb none).pricingTables.resolveApiKeyGroupPricing sampleKeyId
      "gpt-5.4" sampleBasePricing = .error "model is not allowed for api key group" := rfl
  rw [hrefused] at hr
  cases hr

end AccessDb

end CodexPool
