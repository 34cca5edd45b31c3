import CodexPool.ControlPlane.MemoryRouting
import CodexPool.DataPlane.Router

/-!
# Whether a plan routes models as the policies say

A policy names models and prefixes of models. The compiler knows some models and gives the plan an
entry for each of them; the prefixes themselves are not part of a plan. So a model that is known is
routed as the policies say, and one that is not known takes the default route even if a policy has
a prefix of it.
-/

namespace CodexPool

open Keyed

/-! ## What the policies say -/

def ModelRoutingPolicy.names (policy : ModelRoutingPolicy) (model : String) : Bool :=
  policy.exactModels.contains model || hasPrefixOf policy model

section Route

variable (profiles : Uuid → Option CompiledRoutingProfile)
    (sourcePolicies : List ModelRoutingPolicy)

/-- The first policy with accounts that names the model. -/
def decidingPolicy (model : String) : Option ModelRoutingPolicy :=
  (explicitPolicies sourcePolicies).find? fun policy =>
    policyUsable profiles policy && policy.names model

def policyAccountIds (policy : Option ModelRoutingPolicy) : List Uuid :=
  segmentAccountIds (policy.elim [] (policySegments profiles))

/-- The accounts that a model is to be sent to. -/
def policyRoute (model : String) : List Uuid :=
  policyAccountIds profiles ((decidingPolicy profiles sourcePolicies model).or
    (defaultPolicy sourcePolicies))

end Route

def restriction (accountIds : List Uuid) : Option (List Uuid) :=
  if accountIds.isEmpty then none else some accountIds

theorem restriction_inj {accountIds accountIds' : List Uuid} :
    restriction accountIds = restriction accountIds' ↔ accountIds = accountIds' := by
  unfold restriction
  cases accountIds <;> cases accountIds' <;> simp

/-! ## What the plan does -/

section Plan

variable {profiles : Uuid → Option CompiledRoutingProfile}
    {sourcePolicies : List ModelRoutingPolicy}

theorem segmentAccountIds_restriction (segments : List CompiledRoutingProfile) :
    (if segments.isEmpty then none
      else
        let accountIds := segmentAccountIds segments
        if accountIds.isEmpty then none else some accountIds) =
      restriction (segmentAccountIds segments) := by
  cases segments with
  | nil => rfl
  | cons segment segments => rfl

theorem policyFor_entries {plan : CompiledRoutingPlan}
    {entries : List (ModelRoutingPolicy × String)}
    (hplan : plan.policies = entries.map (compiledEntry profiles)) (model : String) :
    plan.policyFor model =
      (entries.find? fun entry => entry.2 = model).map (compiledEntry profiles) := by
  have hpref : (plan.policies.find? fun policy =>
      policy.modelPrefixes.any fun p => Text.startsWith model p) = none := by
    rw [List.find?_eq_none, hplan]
    intro policy hpolicy
    rcases List.mem_map.1 hpolicy with ⟨entry, _, rfl⟩
    exact Bool.false_ne_true
  rw [CompiledRoutingPlan.policyFor, hpref, Option.or_none, hplan, List.find?_map]
  congr 2
  funext entry
  simp [compiledEntry, compilePolicy]

theorem find?_listed_of_known {accountTraits : List AccountRoutingTraits} {model : String}
    (hknown : model ∈ knownModels accountTraits sourcePolicies) :
    ((explicitPolicies sourcePolicies).find? fun policy => policyUsable profiles policy &&
        (listedModels (knownModels accountTraits sourcePolicies) policy).contains model) =
      decidingPolicy profiles sourcePolicies model := by
  unfold decidingPolicy
  congr 1
  funext policy
  congr 1
  rw [Bool.eq_iff_iff, List.contains_iff_mem, mem_listedModels, ModelRoutingPolicy.names,
    Bool.or_eq_true, List.contains_iff_mem]
  simp [hknown]

theorem find?_listed_of_unknown {accountTraits : List AccountRoutingTraits} {model : String}
    (hunknown : model ∉ knownModels accountTraits sourcePolicies) :
    ((explicitPolicies sourcePolicies).find? fun policy => policyUsable profiles policy &&
        (listedModels (knownModels accountTraits sourcePolicies) policy).contains model) =
          none := by
  rw [List.find?_eq_none]
  intro policy hpolicy hlisted
  rw [Bool.and_eq_true, List.contains_iff_mem, mem_listedModels] at hlisted
  rcases hlisted.2 with hexact | hprefixed
  · apply hunknown
    rw [knownModels, mem_sortDedupStrings, List.mem_append]
    exact Or.inr (List.mem_flatMap.2 ⟨policy, hpolicy, hexact⟩)
  · exact hunknown hprefixed.1

variable (profiles) in
theorem segments_or_default (first default : Option ModelRoutingPolicy)
    (p : ModelRoutingPolicy → Bool) :
    ((first.or (default.filter p)).map (policySegments profiles)).getD
        (default.elim [] (policySegments profiles)) =
      (first.or default).elim [] (policySegments profiles) := by
  cases first with
  | some policy => rfl
  | none =>
      cases default with
      | none => rfl
      | some policy =>
          rw [Option.none_or, Option.none_or, Option.filter_some]
          cases p policy with
          | false => rfl
          | true => rfl

end Plan

section Candidates

variable (accounts : List UpstreamAccount) (accountTraits : List AccountRoutingTraits)
  (profiles : List RoutingProfile) (sourcePolicies : List ModelRoutingPolicy) (versionId : Uuid)
  (now : DateTime) (triggerReason : Option String)

def Router.withCompiledPlan (r : Router) : Router :=
  { r with
    compiledRoutingPlan := compileRoutingPlanFromState accounts accountTraits profiles
      sourcePolicies versionId now triggerReason }

variable {accounts accountTraits profiles sourcePolicies versionId now triggerReason} in
theorem routes_of_no_plan (h : compileRoutingPlanFromState accounts accountTraits profiles
      sourcePolicies versionId now triggerReason = none) :
    compileRoutes accounts accountTraits profiles sourcePolicies now = ([], []) := by
  unfold compileRoutingPlanFromState at h
  dsimp only at h
  split at h
  · rename_i hempty
    rw [Bool.and_eq_true, List.isEmpty_iff, List.isEmpty_iff] at hempty
    exact Prod.ext hempty.1 hempty.2
  · cases h

variable {accounts accountTraits profiles sourcePolicies versionId now triggerReason} in
theorem routes_of_plan {plan : CompiledRoutingPlan}
    (h : compileRoutingPlanFromState accounts accountTraits profiles sourcePolicies versionId now
      triggerReason = some plan) :
    compileRoutes accounts accountTraits profiles sourcePolicies now =
      (plan.defaultRoute, plan.policies) := by
  unfold compileRoutingPlanFromState at h
  dsimp only at h
  split at h
  · cases h
  · rw [← Option.some.inj h]

/-- The first policy that has an entry for the model in the plan. -/
def plannedPolicy (model : String) : Option ModelRoutingPolicy :=
  (explicitPolicies sourcePolicies).find? fun policy =>
    policyUsable (compiledProfiles accounts accountTraits profiles now) policy &&
      (listedModels (knownModels accountTraits sourcePolicies) policy).contains model

theorem candidates_withCompiledPlan (r : Router) {model trimmed : String}
    (htrimmed : Text.trimmed? (some model) = some trimmed) :
    (r.withCompiledPlan accounts accountTraits profiles sourcePolicies versionId now
        triggerReason).candidateAccountIdsForModel (some model) =
      restriction (policyAccountIds (compiledProfiles accounts accountTraits profiles now)
        ((plannedPolicy accounts accountTraits profiles sourcePolicies now trimmed).or
          (defaultPolicy sourcePolicies))) := by
  set compiled := compiledProfiles accounts accountTraits profiles now with hcompiled
  set entries := planEntries (knownModels accountTraits sourcePolicies) (policyUsable compiled)
    (explicitPolicies sourcePolicies) (defaultPolicy sourcePolicies) with hentries
  have hroutes : compileRoutes accounts accountTraits profiles sourcePolicies now =
      ((defaultPolicy sourcePolicies).elim [] (policySegments compiled),
        entries.map (compiledEntry compiled)) :=
    compileRoutes_eq accounts accountTraits profiles sourcePolicies now
  have hfind : (entries.find? fun entry => entry.2 = trimmed) =
      ((plannedPolicy accounts accountTraits profiles sourcePolicies now trimmed).or
        ((defaultPolicy sourcePolicies).filter fun policy => policyUsable compiled policy &&
          (knownModels accountTraits sourcePolicies).contains trimmed)).map (·, trimmed) :=
    find?_planEntries (explicitPolicies sourcePolicies) (defaultPolicy sourcePolicies) trimmed
  have hsegments := segments_or_default compiled
    (plannedPolicy accounts accountTraits profiles sourcePolicies now trimmed)
    (defaultPolicy sourcePolicies) fun policy => policyUsable compiled policy &&
      (knownModels accountTraits sourcePolicies).contains trimmed
  cases hplan : compileRoutingPlanFromState accounts accountTraits profiles sourcePolicies versionId
      now triggerReason with
  | none =>
      rw [routes_of_no_plan hplan] at hroutes
      have hdefault : [] = (defaultPolicy sourcePolicies).elim [] (policySegments compiled) :=
        congrArg Prod.fst hroutes
      have hnone : entries = [] := List.map_eq_nil_iff.1 (congrArg Prod.snd hroutes).symm
      rw [hnone, List.find?_nil] at hfind
      rw [Option.map_eq_none_iff.1 hfind.symm, Option.map_none, Option.getD_none,
        ← hdefault] at hsegments
      rw [policyAccountIds, ← hsegments]
      simp only [Router.candidateAccountIdsForModel, Router.withCompiledPlan, htrimmed, hplan]
      rfl
  | some plan =>
      rw [routes_of_plan hplan] at hroutes
      have hdefault : plan.defaultRoute =
          (defaultPolicy sourcePolicies).elim [] (policySegments compiled) :=
        congrArg Prod.fst hroutes
      have hpolicy := policyFor_entries (congrArg Prod.snd hroutes) trimmed
      rw [hfind, Option.map_map] at hpolicy
      simp only [Router.candidateAccountIdsForModel, Router.withCompiledPlan, htrimmed, hplan]
      rw [segmentAccountIds_restriction, hpolicy, Option.map_map, hdefault, policyAccountIds,
        ← hsegments]
      rfl

/-- The model is restricted to the accounts that the policies say, in their order. The data plane
trims the names of models. -/
def RealisesPolicies (r : Router) (model : String) : Prop :=
  (r.withCompiledPlan accounts accountTraits profiles sourcePolicies versionId now
      triggerReason).candidateAccountIdsForModel (some model) =
    restriction (policyRoute (compiledProfiles accounts accountTraits profiles now) sourcePolicies
      (Text.trim model))

/-- The model is known, or the policy that is to decide about it has the accounts of the default
policy. A blank name is taken for no model, so that there must be no route for it. -/
def Realisable (model : String) : Prop :=
  let compiled := compiledProfiles accounts accountTraits profiles now
  if Text.trim model = "" then policyRoute compiled sourcePolicies "" = []
  else
    Text.trim model ∈ knownModels accountTraits sourcePolicies ∨
      ∀ policy ∈ decidingPolicy compiled sourcePolicies (Text.trim model),
        policyAccountIds compiled (some policy) =
          policyAccountIds compiled (defaultPolicy sourcePolicies)

theorem realisesPolicies_iff (r : Router) (model : String) :
    RealisesPolicies accounts accountTraits profiles sourcePolicies versionId now triggerReason r
        model ↔
      Realisable accounts accountTraits profiles sourcePolicies now model := by
  unfold RealisesPolicies Realisable
  dsimp only
  by_cases hblank : Text.trim model = ""
  · have hnone : Text.trimmed? (some model) = none := by
      simp [Text.trimmed?, hblank]
    rw [if_pos hblank, hblank]
    simp only [Router.candidateAccountIdsForModel, hnone]
    rw [eq_comm (b := []), ← restriction_inj]
    rfl
  · have hsome : Text.trimmed? (some model) = some (Text.trim model) := by
      simp [Text.trimmed?, hblank]
    rw [if_neg hblank, candidates_withCompiledPlan _ _ _ _ _ _ _ _ hsome, restriction_inj,
      policyRoute, plannedPolicy]
    by_cases hknown : Text.trim model ∈ knownModels accountTraits sourcePolicies
    · rw [find?_listed_of_known hknown]
      exact iff_of_true rfl (Or.inl hknown)
    · rw [find?_listed_of_unknown hknown, or_iff_right hknown, Option.none_or]
      cases decidingPolicy (compiledProfiles accounts accountTraits profiles now) sourcePolicies
          (Text.trim model) with
      | none => simp
      | some policy => simp [eq_comm]

end Candidates

/-- The plans of both stores route a model as the policies say, the higher priority first and then
the older one, exactly when it is known or the default policy agrees. -/
theorem plan_realises_policies_iff (r : Router) (m : RoutingMaps) (t : ConfigTables)
    (accounts : List UpstreamAccount) (accountTraits : List AccountRoutingTraits)
    (versionId : Uuid) (now : DateTime) (triggerReason : Option String) (model : String) :
    (RealisesPolicies accounts accountTraits m.sourceProfiles m.sourcePolicies versionId now
        (some "in_memory_snapshot") r model ↔
      Realisable accounts accountTraits m.sourceProfiles m.sourcePolicies now model) ∧
    (RealisesPolicies accounts accountTraits t.listRoutingProfilesInner
        t.listModelRoutingPoliciesInner versionId now triggerReason r model ↔
      Realisable accounts accountTraits t.listRoutingProfilesInner t.listModelRoutingPoliciesInner
        now model) :=
  ⟨realisesPolicies_iff _ _ _ _ _ _ _ r model, realisesPolicies_iff _ _ _ _ _ _ _ r model⟩

/-! ## A sample -/

namespace RoutingMaps

def sampleProfile (id accountId : String) : RoutingProfile where
  id := ⟨id⟩
  name := id
  description := none
  enabled := true
  priority := 0
  selector := ⟨[], [], [], [⟨accountId⟩], []⟩
  createdAt := 0
  updatedAt := 0

def sampleSourcePolicy (id : String) (modelPrefixes : List String) (profileIds : List Uuid) :
    ModelRoutingPolicy where
  id := ⟨id⟩
  name := id
  family := "gpt"
  exactModels := []
  modelPrefixes := modelPrefixes
  fallbackProfileIds := profileIds
  enabled := true
  priority := 0
  createdAt := 0
  updatedAt := 0

/-- Models that begin with `gpt-` are to be sent to one account, all other models to another one. -/
def sampleMaps : RoutingMaps where
  routingProfiles := [sampleProfile "first" "a", sampleProfile "second" "b"]
  modelRoutingPolicies := [sampleSourcePolicy "gpt" ["gpt-"] [⟨"first"⟩],
    sampleSourcePolicy "default" [] [⟨"second"⟩]]

/-- A model that begins with `gpt-` is sent to the other one when no account lists it. -/
theorem unknown_model_takes_default_route :
    ¬ ∀ model, RealisesPolicies sampleAccounts [] sampleMaps.sourceProfiles
      sampleMaps.sourcePolicies ⟨"version"⟩ 0 (some "in_memory_snapshot") (Router.new [])
        model := by
  intro h
  have hroute := h "gpt-new"
  revert hroute
  unfold RealisesPolicies
  decide +kernel

end RoutingMaps

end CodexPool
