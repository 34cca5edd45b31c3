import CodexPool.ControlPlane.OAuthStore
import CodexPool.ControlPlane.Operation
import CodexPool.ControlPlane.PolicyDecisions
import CodexPool.Lib.Machine
import Mathlib.Data.List.Find

/-!
# Routing in the two stores

The in-memory store keeps routing profiles and policies as they were sent. The Postgres store
trims and sorts the models of a policy when it writes it, and sorts the profiles of a policy when
it reads it. Which policy decides about a model is the same in both stores as long as the names of
the models are trimmed; the segments of the policy need not be in the same order.
-/

namespace CodexPool

open Keyed SortedLists

/-- The maps of the in-memory store, listed in the order in which it goes through them. -/
structure RoutingMaps where
  routingProfiles : List RoutingProfile
  modelRoutingPolicies : List ModelRoutingPolicy

inductive RoutingOp where
  | upsertRoutingProfile (freshId : Uuid) (now : DateTime) (req : UpsertRoutingProfileRequest)
  | deleteRoutingProfile (profileId : Uuid)
  | upsertModelRoutingPolicy (freshId : Uuid) (now : DateTime)
      (req : UpsertModelRoutingPolicyRequest)
  | deleteModelRoutingPolicy (policyId : Uuid)

namespace RoutingMaps

variable (m : RoutingMaps)

def upsertRoutingProfile (freshId : Uuid) (now : DateTime) (req : UpsertRoutingProfileRequest) :
    RoutingMaps :=
  let id := req.id.getD freshId
  let createdAt := ((lookupBy (·.id) m.routingProfiles id).map (·.createdAt)).getD now
  { m with
    routingProfiles := upsertBy (·.id)
      { id := id, name := req.name, description := req.description, enabled := req.enabled
        priority := req.priority, selector := req.selector, createdAt := createdAt
        updatedAt := now } m.routingProfiles }

def upsertModelRoutingPolicy (freshId : Uuid) (now : DateTime)
    (req : UpsertModelRoutingPolicyRequest) : RoutingMaps :=
  let id := req.id.getD freshId
  let createdAt := ((lookupBy (·.id) m.modelRoutingPolicies id).map (·.createdAt)).getD now
  { m with
    modelRoutingPolicies := upsertBy (·.id)
      { id := id, name := req.name, family := req.family, exactModels := req.exactModels
        modelPrefixes := req.modelPrefixes, fallbackProfileIds := req.fallbackProfileIds
        enabled := req.enabled, priority := req.priority, createdAt := createdAt
        updatedAt := now } m.modelRoutingPolicies }

/-- Deleting what is not there fails and leaves the maps as they are. -/
def step (m : RoutingMaps) : RoutingOp → RoutingMaps
  | .upsertRoutingProfile freshId now req => m.upsertRoutingProfile freshId now req
  | .deleteRoutingProfile profileId =>
    { m with routingProfiles := deleteBy (·.id) profileId m.routingProfiles }
  | .upsertModelRoutingPolicy freshId now req => m.upsertModelRoutingPolicy freshId now req
  | .deleteModelRoutingPolicy policyId =>
    { m with modelRoutingPolicies := deleteBy (·.id) policyId m.modelRoutingPolicies }

/-- The policies, the higher priority first, then the older one. -/
def sourcePolicies : List ModelRoutingPolicy :=
  (m.modelRoutingPolicies.filter (·.enabled)).insertionSort fun a b =>
    b.priority < a.priority ∨ b.priority = a.priority ∧ a.createdAt ≤ b.createdAt

def sourceProfiles : List RoutingProfile :=
  (m.routingProfiles.filter (·.enabled)).insertionSort fun a b =>
    b.priority < a.priority ∨ b.priority = a.priority ∧ a.createdAt ≤ b.createdAt

/-- The method of the in-memory store. It goes through the profiles and the policies as the
function of the same name in the Postgres store does. -/
def compileRoutingPlanFromState (accounts : List UpstreamAccount)
    (accountTraits : List AccountRoutingTraits) (versionId : Uuid) (now : DateTime) :
    Option CompiledRoutingPlan :=
  CodexPool.compileRoutingPlanFromState accounts accountTraits m.sourceProfiles m.sourcePolicies
    versionId now (some "in_memory_snapshot")

end RoutingMaps

/-! ## The same requests in the Postgres store -/

def ConfigTables.routingStep (t : ConfigTables) : RoutingOp → ConfigTables
  | .upsertRoutingProfile freshId now req => t.upsertRoutingProfileInner freshId now req
  | .deleteRoutingProfile profileId => (t.deleteRoutingProfileInner profileId).getD t
  | .upsertModelRoutingPolicy freshId now req => t.upsertModelRoutingPolicyInner freshId now req
  | .deleteModelRoutingPolicy policyId => (t.deleteModelRoutingPolicyInner policyId).getD t

def writtenPolicy (policy : ModelRoutingPolicy) : ModelRoutingPolicy :=
  { policy with
    exactModels := normalizeStringList policy.exactModels
    modelPrefixes := normalizeStringList policy.modelPrefixes }

/-- The policy as it is written and read again. -/
def storedPolicy (policy : ModelRoutingPolicy) : ModelRoutingPolicy :=
  ConfigTables.parseModelRoutingPolicyRow (writtenPolicy policy)

/-- The tables hold what the maps hold. -/
structure RoutingMaps.WrittenAs (m : RoutingMaps) (t : ConfigTables) : Prop where
  profiles : t.routingProfiles = m.routingProfiles
  policies : t.modelRoutingPolicies = m.modelRoutingPolicies.map writtenPolicy

namespace RoutingMaps

variable {m : RoutingMaps} {t : ConfigTables}

theorem deleteRoutingProfileInner_getD (t : ConfigTables) (profileId : Uuid) :
    (t.deleteRoutingProfileInner profileId).getD t =
      { t with routingProfiles := deleteBy (·.id) profileId t.routingProfiles } := by
  unfold ConfigTables.deleteRoutingProfileInner
  split
  · rename_i hnone
    rw [deleteBy_of_lookupBy_eq_none (Option.isNone_iff_eq_none.1 hnone)]
    rfl
  · rfl

theorem deleteModelRoutingPolicyInner_getD (t : ConfigTables) (policyId : Uuid) :
    (t.deleteModelRoutingPolicyInner policyId).getD t =
      { t with
        modelRoutingPolicies := deleteBy (·.id) policyId t.modelRoutingPolicies } := by
  unfold ConfigTables.deleteModelRoutingPolicyInner
  split
  · rename_i hnone
    rw [deleteBy_of_lookupBy_eq_none (Option.isNone_iff_eq_none.1 hnone)]
    rfl
  · rfl

theorem writtenPolicy_id (policy : ModelRoutingPolicy) :
    (writtenPolicy policy).id = policy.id := rfl

theorem WrittenAs.step (h : m.WrittenAs t) (op : RoutingOp) :
    (m.step op).WrittenAs (t.routingStep op) := by
  cases op with
  | upsertRoutingProfile freshId now req =>
      constructor
      · change upsertBy _ _ t.routingProfiles = upsertBy _ _ m.routingProfiles
        rw [h.profiles]
      · exact h.policies
  | deleteRoutingProfile profileId =>
      rw [ConfigTables.routingStep, deleteRoutingProfileInner_getD]
      exact ⟨congrArg _ h.profiles, h.policies⟩
  | upsertModelRoutingPolicy freshId now req =>
      constructor
      · exact h.profiles
      · change upsertBy _ _ t.modelRoutingPolicies = (upsertBy _ _ m.modelRoutingPolicies).map _
        rw [map_upsertBy writtenPolicy_id, h.policies, lookupBy_map writtenPolicy_id,
          Option.map_map]
        rfl
  | deleteModelRoutingPolicy policyId =>
      rw [ConfigTables.routingStep, deleteModelRoutingPolicyInner_getD]
      constructor
      · exact h.profiles
      · change deleteBy _ _ t.modelRoutingPolicies = (deleteBy _ _ m.modelRoutingPolicies).map _
        rw [map_deleteBy writtenPolicy_id, h.policies]

section Order

variable {α : Type*} (priority : α → Int) (createdAt : α → DateTime)

theorem total_precedence : Std.Total fun a b : α =>
    priority b < priority a ∨ priority b = priority a ∧ createdAt a ≤ createdAt b := by
  constructor
  intro a b
  rcases lt_trichotomy (priority a) (priority b) with hlt | heq | hgt
  · exact Or.inr (Or.inl hlt)
  · rcases le_total (createdAt a) (createdAt b) with hle | hge
    · exact Or.inl (Or.inr ⟨heq.symm, hle⟩)
    · exact Or.inr (Or.inr ⟨heq, hge⟩)
  · exact Or.inl (Or.inl hgt)

theorem trans_precedence : IsTrans α fun a b : α =>
    priority b < priority a ∨ priority b = priority a ∧ createdAt a ≤ createdAt b := by
  constructor
  rintro a b c (hab | ⟨hab, hab'⟩) (hbc | ⟨hbc, hbc'⟩)
  · exact Or.inl (hbc.trans hab)
  · exact Or.inl (hbc ▸ hab)
  · exact Or.inl (hab ▸ hbc)
  · exact Or.inr ⟨hbc.trans hab, hab'.trans hbc'⟩

end Order

theorem WrittenAs.listRoutingProfilesInner (h : m.WrittenAs t) :
    t.listRoutingProfilesInner.filter (·.enabled) = m.sourceProfiles := by
  have htotal := total_precedence RoutingProfile.priority RoutingProfile.createdAt
  have htrans := trans_precedence RoutingProfile.priority RoutingProfile.createdAt
  rw [ConfigTables.listRoutingProfilesInner, h.profiles]
  exact filter_insertionSort _ _

theorem WrittenAs.listModelRoutingPoliciesInner (h : m.WrittenAs t) :
    t.listModelRoutingPoliciesInner.filter (·.enabled) = m.sourcePolicies.map storedPolicy := by
  have htotal := total_precedence ModelRoutingPolicy.priority ModelRoutingPolicy.createdAt
  have htrans := trans_precedence ModelRoutingPolicy.priority ModelRoutingPolicy.createdAt
  have hsort := List.map_insertionSort
    (fun a b : ModelRoutingPolicy =>
      b.priority < a.priority ∨ b.priority = a.priority ∧ a.createdAt ≤ b.createdAt)
    (fun a b : ModelRoutingPolicy =>
      b.priority < a.priority ∨ b.priority = a.priority ∧ a.createdAt ≤ b.createdAt)
    writtenPolicy m.modelRoutingPolicies (fun _ _ _ _ => Iff.rfl)
  rw [ConfigTables.listModelRoutingPoliciesInner, h.policies, ← hsort, List.map_map,
    List.filter_map]
  congr 1
  exact filter_insertionSort _ _

/-! ## Names that are trimmed -/

end RoutingMaps

/-- The names of models are as the Postgres store writes them. -/
def ModelRoutingPolicy.NamesTrimmed (policy : ModelRoutingPolicy) : Prop :=
  ∀ name ∈ policy.exactModels ++ policy.modelPrefixes, Text.trim name = name ∧ name ≠ ""

theorem mem_normalizeStringList {values : List String}
    (h : ∀ value ∈ values, Text.trim value = value ∧ value ≠ "") {value : String} :
    value ∈ normalizeStringList values ↔ value ∈ values := by
  rw [normalizeStringList, mem_eraseReps, List.mem_insertionSort, List.mem_filter, List.mem_map,
    decide_eq_true_eq]
  constructor
  · rintro ⟨⟨other, hother, htrim⟩, _⟩
    rw [← htrim, (h other hother).1]
    exact hother
  · intro hvalue
    exact ⟨⟨value, hvalue, (h value hvalue).1⟩, (h value hvalue).2⟩

section Stored

variable {policy : ModelRoutingPolicy}

theorem mem_normalizeStringList_twice {values : List String}
    (h : ∀ value ∈ values, Text.trim value = value ∧ value ≠ "") {value : String} :
    value ∈ normalizeStringList (normalizeStringList values) ↔ value ∈ values := by
  rw [mem_normalizeStringList fun other hother => h other ((mem_normalizeStringList h).1 hother),
    mem_normalizeStringList h]

theorem mem_exactModels_stored (h : policy.NamesTrimmed) {model : String} :
    model ∈ (storedPolicy policy).exactModels ↔ model ∈ policy.exactModels :=
  mem_normalizeStringList_twice fun name hname => h name (List.mem_append_left _ hname)

theorem mem_modelPrefixes_stored (h : policy.NamesTrimmed) {model : String} :
    model ∈ (storedPolicy policy).modelPrefixes ↔ model ∈ policy.modelPrefixes :=
  mem_normalizeStringList_twice fun name hname => h name (List.mem_append_right _ hname)

theorem isDefaultPolicy_stored (h : policy.NamesTrimmed) :
    isDefaultPolicy (storedPolicy policy) = isDefaultPolicy policy := by
  rw [Bool.eq_iff_iff, isDefaultPolicy, isDefaultPolicy, Bool.and_eq_true, Bool.and_eq_true,
    List.isEmpty_iff, List.isEmpty_iff, List.isEmpty_iff, List.isEmpty_iff,
    List.eq_nil_iff_forall_not_mem, List.eq_nil_iff_forall_not_mem,
    List.eq_nil_iff_forall_not_mem, List.eq_nil_iff_forall_not_mem]
  simp only [mem_exactModels_stored h, mem_modelPrefixes_stored h]

theorem hasPrefixOf_stored (h : policy.NamesTrimmed) (model : String) :
    hasPrefixOf (storedPolicy policy) model = hasPrefixOf policy model := by
  rw [Bool.eq_iff_iff, hasPrefixOf, hasPrefixOf, List.any_eq_true, List.any_eq_true]
  simp only [mem_modelPrefixes_stored h]

theorem listedModels_stored (h : policy.NamesTrimmed) (known : List String) :
    listedModels known (storedPolicy policy) = listedModels known policy := by
  rw [listedModels, listedModels, sortDedupStrings_eq, sortDedupStrings_eq]
  apply sortDedup_congr
  intro model
  rw [List.mem_append, List.mem_append, List.mem_filter, List.mem_filter,
    mem_exactModels_stored h, hasPrefixOf_stored h]

/-! ## The segments of a stored policy -/

variable {profiles : Uuid → Option CompiledRoutingProfile}

variable (profiles) in
def liveProfileIds (policy : ModelRoutingPolicy) : List Uuid :=
  policy.fallbackProfileIds.filter fun id =>
    (profiles id).any fun profile => !profile.accountIds.isEmpty

def uuidLe (a b : Uuid) : Prop := a.text ≤ b.text

instance : DecidableRel uuidLe := fun a b => inferInstanceAs (Decidable (a.text ≤ b.text))

instance : Std.Total uuidLe := ⟨fun a b => String.le_total a.text b.text⟩

instance : IsTrans Uuid uuidLe := ⟨fun _ _ _ hab hbc => String.le_trans hab hbc⟩

instance : Std.Antisymm uuidLe where
  antisymm a b hab hba := by
    cases a
    cases b
    exact congrArg Uuid.mk (String.le_antisymm hab hba)

theorem id_of_compiledProfiles {accounts : List UpstreamAccount}
    {accountTraits : List AccountRoutingTraits} {sourceProfiles : List RoutingProfile}
    {now : DateTime} {id : Uuid} {profile : CompiledRoutingProfile}
    (h : compiledProfiles accounts accountTraits sourceProfiles now id = some profile) :
    profile.id = id :=
  key_of_collectBy h

theorem map_id_policySegments
    (hprofiles : ∀ id profile, profiles id = some profile → profile.id = id)
    (policy : ModelRoutingPolicy) :
    (policySegments profiles policy).map (·.id) = liveProfileIds profiles policy := by
  unfold policySegments buildCompiledFallbackSegments liveProfileIds
  induction policy.fallbackProfileIds with
  | nil => rfl
  | cons id ids ih =>
      cases hprofile : profiles id with
      | none => simp [hprofile, ih]
      | some profile =>
          cases hempty : profile.accountIds.isEmpty with
          | true => simp [hprofile, hempty, ih]
          | false => simp [hprofile, hempty, ih, hprofiles id profile hprofile]

theorem policySegments_eq (policy : ModelRoutingPolicy) :
    policySegments profiles policy = (liveProfileIds profiles policy).filterMap profiles := by
  unfold policySegments buildCompiledFallbackSegments liveProfileIds
  induction policy.fallbackProfileIds with
  | nil => rfl
  | cons id ids ih =>
      cases hprofile : profiles id with
      | none => simp [hprofile, ih]
      | some profile =>
          cases hempty : profile.accountIds.isEmpty with
          | true => simp [hprofile, hempty, ih]
          | false => simp [hprofile, hempty, ih]

theorem liveProfileIds_stored (policy : ModelRoutingPolicy) :
    liveProfileIds profiles (storedPolicy policy) =
      (sortDedup uuidLe policy.fallbackProfileIds).filter fun id =>
        (profiles id).any fun profile => !profile.accountIds.isEmpty := rfl

theorem policySegments_stored_iff
    (hprofiles : ∀ id profile, profiles id = some profile → profile.id = id) :
    policySegments profiles (storedPolicy policy) = policySegments profiles policy ↔
      Increasing uuidLe (liveProfileIds profiles policy) := by
  have hids : liveProfileIds profiles (storedPolicy policy) = liveProfileIds profiles policy ↔
      Increasing uuidLe (liveProfileIds profiles policy) := by
    rw [liveProfileIds_stored]
    exact filter_sortDedup_eq_iff
  rw [← hids]
  constructor
  · intro h
    rw [← map_id_policySegments hprofiles, ← map_id_policySegments hprofiles, h]
  · intro h
    rw [policySegments_eq, policySegments_eq, h]

theorem policyUsable_stored
    (hprofiles : ∀ id profile, profiles id = some profile → profile.id = id)
    (policy : ModelRoutingPolicy) :
    policyUsable profiles (storedPolicy policy) = policyUsable profiles policy := by
  have hempty (policy : ModelRoutingPolicy) : (policySegments profiles policy).isEmpty = true ↔
      ∀ id, id ∉ liveProfileIds profiles policy := by
    rw [List.isEmpty_iff, ← List.map_eq_nil_iff, map_id_policySegments hprofiles,
      List.eq_nil_iff_forall_not_mem]
  unfold policyUsable
  congr 1
  rw [Bool.eq_iff_iff, hempty, hempty, liveProfileIds_stored, liveProfileIds]
  simp only [List.mem_filter, mem_sortDedup]

theorem compiledEntry_stored_iff
    (hprofiles : ∀ id profile, profiles id = some profile → profile.id = id) (model : String) :
    compiledEntry profiles (storedPolicy policy, model) = compiledEntry profiles (policy, model) ↔
      Increasing uuidLe (liveProfileIds profiles policy) := by
  rw [← policySegments_stored_iff hprofiles]
  constructor
  · exact fun h => congrArg CompiledModelRoutingPolicy.fallbackSegments h
  · intro h
    unfold compiledEntry compilePolicy
    dsimp only
    rw [h]
    rfl

end Stored

/-! ## The plans of the two stores -/

namespace RoutingMaps

variable {m : RoutingMaps} {t : ConfigTables}

theorem filter_enabled_sourcePolicies : m.sourcePolicies.filter (·.enabled) = m.sourcePolicies := by
  apply List.filter_eq_self.2
  intro policy hpolicy
  rw [sourcePolicies, List.mem_insertionSort, List.mem_filter] at hpolicy
  exact hpolicy.2

theorem filter_enabled_sourceProfiles : m.sourceProfiles.filter (·.enabled) = m.sourceProfiles := by
  apply List.filter_eq_self.2
  intro profile hprofile
  rw [sourceProfiles, List.mem_insertionSort, List.mem_filter] at hprofile
  exact hprofile.2

theorem mem_sourcePolicies_of_explicit {policy : ModelRoutingPolicy}
    (h : policy ∈ explicitPolicies m.sourcePolicies) : policy ∈ m.sourcePolicies :=
  (List.mem_filter.1 (List.mem_filter.1 h).1).1

variable (m) in
/-- The default policy, and each policy that decides about a model, lists the profiles with
accounts in increasing order and each once. -/
def InOrder (accounts : List UpstreamAccount) (accountTraits : List AccountRoutingTraits)
    (now : DateTime) : Prop :=
  let compiled := compiledProfiles accounts accountTraits m.sourceProfiles now
  (∀ policy ∈ defaultPolicy m.sourcePolicies,
      Increasing uuidLe (liveProfileIds compiled policy)) ∧
    ∀ model, ∀ policy ∈ decider (knownModels accountTraits m.sourcePolicies) (policyUsable compiled)
        (explicitPolicies m.sourcePolicies) (defaultPolicy m.sourcePolicies) model,
      Increasing uuidLe (liveProfileIds compiled policy)

section WrittenAs

variable (h : m.WrittenAs t) (htrimmed : ∀ policy ∈ m.sourcePolicies, policy.NamesTrimmed)

include h

theorem WrittenAs.compiledProfiles (accounts : List UpstreamAccount)
    (accountTraits : List AccountRoutingTraits) (now : DateTime) :
    compiledProfiles accounts accountTraits t.listRoutingProfilesInner now =
      CodexPool.compiledProfiles accounts accountTraits m.sourceProfiles now := by
  rw [CodexPool.compiledProfiles, CodexPool.compiledProfiles, h.listRoutingProfilesInner,
    filter_enabled_sourceProfiles]

include htrimmed

theorem WrittenAs.explicitPolicies :
    explicitPolicies t.listModelRoutingPoliciesInner =
      (CodexPool.explicitPolicies m.sourcePolicies).map storedPolicy := by
  rw [CodexPool.explicitPolicies, CodexPool.explicitPolicies, h.listModelRoutingPoliciesInner,
    filter_enabled_sourcePolicies, List.filter_map]
  congr 1
  apply List.filter_congr
  intro policy hpolicy
  rw [Function.comp_apply, isDefaultPolicy_stored (htrimmed policy hpolicy)]

theorem WrittenAs.defaultPolicy :
    defaultPolicy t.listModelRoutingPoliciesInner =
      (CodexPool.defaultPolicy m.sourcePolicies).map storedPolicy := by
  rw [CodexPool.defaultPolicy, CodexPool.defaultPolicy, h.listModelRoutingPoliciesInner,
    filter_enabled_sourcePolicies, List.find?_map]
  congr 1
  apply List.find?_congr
  intro policy hpolicy
  rw [Function.comp_apply, isDefaultPolicy_stored (htrimmed policy hpolicy)]

theorem WrittenAs.knownModels (accountTraits : List AccountRoutingTraits) :
    knownModels accountTraits t.listModelRoutingPoliciesInner =
      CodexPool.knownModels accountTraits m.sourcePolicies := by
  rw [CodexPool.knownModels, CodexPool.knownModels, sortDedupStrings_eq, sortDedupStrings_eq,
    h.explicitPolicies htrimmed]
  apply sortDedup_congr
  intro model
  rw [List.mem_append, List.mem_append]
  apply or_congr_right
  rw [List.flatMap_map, List.mem_flatMap, List.mem_flatMap]
  apply exists_congr
  intro policy
  apply and_congr_right
  intro hpolicy
  exact mem_exactModels_stored (htrimmed policy (mem_sourcePolicies_of_explicit hpolicy))

/-- The plans are the same exactly when the default policy and each policy that decides about a
model list their profiles with accounts in increasing order. -/
theorem WrittenAs.compileRoutes_eq_iff (accounts : List UpstreamAccount)
    (accountTraits : List AccountRoutingTraits) (now : DateTime) :
    compileRoutes accounts accountTraits t.listRoutingProfilesInner t.listModelRoutingPoliciesInner
        now = compileRoutes accounts accountTraits m.sourceProfiles m.sourcePolicies now ↔
      m.InOrder accounts accountTraits now := by
  rw [compileRoutes_eq, compileRoutes_eq, h.compiledProfiles, h.knownModels htrimmed,
    h.explicitPolicies htrimmed, h.defaultPolicy htrimmed, InOrder]
  dsimp only
  set compiled := CodexPool.compiledProfiles accounts accountTraits m.sourceProfiles now with
    hcompiled
  have hprofiles (id : Uuid) (profile : CompiledRoutingProfile)
      (hprofile : compiled id = some profile) : profile.id = id := id_of_compiledProfiles hprofile
  have hknown : (CodexPool.knownModels accountTraits m.sourcePolicies).Nodup :=
    nodup_sortDedupStrings _
  rw [planEntries_map
    (fun policy hpolicy => ⟨policyUsable_stored hprofiles policy,
      listedModels_stored (htrimmed policy (mem_sourcePolicies_of_explicit hpolicy)) _⟩)
    (fun policy _ => policyUsable_stored hprofiles policy), Prod.mk.injEq, List.map_map,
    List.map_inj_left]
  apply and_congr
  · cases CodexPool.defaultPolicy m.sourcePolicies with
    | none => simp
    | some policy => simpa using policySegments_stored_iff hprofiles
  · constructor
    · intro hentries model policy hpolicy
      have hentry := hentries (policy, model) ((mem_planEntries_iff hknown).2 hpolicy)
      exact (compiledEntry_stored_iff hprofiles model).1 hentry
    · rintro horder ⟨policy, model⟩ hmem
      apply (compiledEntry_stored_iff hprofiles model).2
      exact horder model policy ((mem_planEntries_iff hknown).1 hmem)

end WrittenAs

/-- After the same requests, with names of models that are trimmed, both stores have the same
default route and the same policies exactly when the policies that count list their profiles with
accounts in increasing order. -/
theorem stores_route_alike_iff (ops : List RoutingOp) (accounts : List UpstreamAccount)
    (accountTraits : List AccountRoutingTraits) (now : DateTime)
    (htrimmed : ∀ policy ∈ (Machine.run step ⟨[], []⟩ ops).sourcePolicies, policy.NamesTrimmed) :
    (let t := Machine.run ConfigTables.routingStep Tables.empty.config ops
      let m := Machine.run step ⟨[], []⟩ ops
      compileRoutes accounts accountTraits t.listRoutingProfilesInner
        t.listModelRoutingPoliciesInner
          now = compileRoutes accounts accountTraits m.sourceProfiles m.sourcePolicies now) ↔
      (Machine.run step ⟨[], []⟩ ops).InOrder accounts accountTraits now := by
  have hwritten : (Machine.run step ⟨[], []⟩ ops).WrittenAs
      (Machine.run ConfigTables.routingStep Tables.empty.config ops) :=
    Machine.run_simulates (fun _ _ op h => h.step op) ⟨rfl, rfl⟩ ops
  exact hwritten.compileRoutes_eq_iff htrimmed accounts accountTraits now

/-! ## Sample requests -/

def sampleProfileRequest (id accountId : String) : UpsertRoutingProfileRequest where
  id := some ⟨id⟩
  name := id
  description := none
  enabled := true
  priority := 0
  selector := ⟨[], [], [], [⟨accountId⟩], []⟩

def samplePolicyRequest (profileIds : List Uuid) : UpsertModelRoutingPolicyRequest where
  id := some ⟨"policy"⟩
  name := "policy"
  family := "gpt"
  exactModels := ["gpt-5.4"]
  modelPrefixes := []
  fallbackProfileIds := profileIds
  enabled := true
  priority := 0

/-- Two profiles with an account each, and a policy that lists them. -/
def sampleRequests (profileIds : List Uuid) : List RoutingOp :=
  [.upsertRoutingProfile ⟨""⟩ 0 (sampleProfileRequest "p" "a"),
    .upsertRoutingProfile ⟨""⟩ 0 (sampleProfileRequest "q" "b"),
    .upsertModelRoutingPolicy ⟨""⟩ 0 (samplePolicyRequest profileIds)]

def sampleAccounts : List UpstreamAccount :=
  [workspaceAccount "a" "w" 0, workspaceAccount "b" "w" 0]

theorem inOrder_sampleRequests :
    (Machine.run step ⟨[], []⟩ (sampleRequests [⟨"p"⟩, ⟨"q"⟩])).InOrder sampleAccounts [] 0 := by
  refine (stores_route_alike_iff (sampleRequests [⟨"p"⟩, ⟨"q"⟩]) sampleAccounts [] 0 ?_).1 ?_
  · unfold ModelRoutingPolicy.NamesTrimmed
    decide +kernel
  · decide +kernel

/-- A policy that lists the second profile first is read with the first one first. -/
theorem postgres_reorders_profiles :
    ¬ ∀ ops accounts accountTraits now,
      let t := Machine.run ConfigTables.routingStep Tables.empty.config ops
      let m := Machine.run step ⟨[], []⟩ ops
      compileRoutes accounts accountTraits t.listRoutingProfilesInner
        t.listModelRoutingPoliciesInner
        now = compileRoutes accounts accountTraits m.sourceProfiles m.sourcePolicies now := by
  intro h
  have hsame := h (sampleRequests [⟨"q"⟩, ⟨"p"⟩]) sampleAccounts [] 0
  revert hsame
  decide +kernel

end RoutingMaps

end CodexPool
