import CodexPool.ControlPlane.RoutingPlan
import CodexPool.Lib.SortedLists

/-!
# Which policy decides about a model

A plan has one entry for each model that is routed. `planEntries` lists the models with the
policies that decide about them, in the order of the plan; the plan is made of these entries by
filling in the segments of each policy. Which policy decides depends only on the models the
policies list and on which of them have an account at all.
-/

namespace CodexPool

open Keyed SortedLists

/-! ## The parts of a compilation -/

def compiledProfiles (accounts : List UpstreamAccount) (accountTraits : List AccountRoutingTraits)
    (profiles : List RoutingProfile) (now : DateTime) : Uuid → Option CompiledRoutingProfile :=
  collectBy (·.id) ((profiles.filter (·.enabled)).map (compileProfile accounts accountTraits now))

def explicitPolicies (sourcePolicies : List ModelRoutingPolicy) : List ModelRoutingPolicy :=
  (sourcePolicies.filter (·.enabled)).filter fun policy => !isDefaultPolicy policy

def defaultPolicy (sourcePolicies : List ModelRoutingPolicy) : Option ModelRoutingPolicy :=
  (sourcePolicies.filter (·.enabled)).find? isDefaultPolicy

def knownModels (accountTraits : List AccountRoutingTraits)
    (sourcePolicies : List ModelRoutingPolicy) : List String :=
  sortDedupStrings (accountTraits.flatMap (·.supportedModels) ++
    (explicitPolicies sourcePolicies).flatMap (·.exactModels))

def hasPrefixOf (policy : ModelRoutingPolicy) (model : String) : Bool :=
  policy.modelPrefixes.any fun p => Text.startsWith model p

def listedModels (known : List String) (policy : ModelRoutingPolicy) : List String :=
  sortDedupStrings (policy.exactModels ++ known.filter (hasPrefixOf policy))

section Segments

variable (profiles : Uuid → Option CompiledRoutingProfile)

def policySegments (policy : ModelRoutingPolicy) : List CompiledRoutingProfile :=
  buildCompiledFallbackSegments policy.fallbackProfileIds profiles

/-- The policy leads to an account. -/
def policyUsable (policy : ModelRoutingPolicy) : Bool := !(policySegments profiles policy).isEmpty

def compiledEntry (entry : ModelRoutingPolicy × String) : CompiledModelRoutingPolicy :=
  compilePolicy entry.1 entry.2 (policySegments profiles entry.1)

end Segments

/-! ## The entries of a plan -/

section Decisions

variable (known : List String) (usable : ModelRoutingPolicy → Bool)

/-- The models that a policy decides about when those in `routed` are taken. -/
def decidedModels (routed : List String) (policy : ModelRoutingPolicy) : List String :=
  if usable policy then (listedModels known policy).filter fun model => !routed.contains model
  else []

def decisions : List String → List ModelRoutingPolicy → List (ModelRoutingPolicy × String)
  | _, [] => []
  | routed, policy :: policies =>
    let models := decidedModels known usable routed policy
    models.map (policy, ·) ++ decisions (models.reverse ++ routed) policies

/-- The default policy decides about the known models that are left. -/
def defaultDecisions (routed : List String) (policy : Option ModelRoutingPolicy) :
    List (ModelRoutingPolicy × String) :=
  match policy with
  | none => []
  | some policy =>
    if usable policy then
      (known.filter fun model => !routed.contains model).map (policy, ·)
    else []

def planEntries (explicit : List ModelRoutingPolicy) (default : Option ModelRoutingPolicy) :
    List (ModelRoutingPolicy × String) :=
  let explicitEntries := decisions known usable [] explicit
  explicitEntries ++ defaultDecisions known usable (explicitEntries.map (·.2)) default

end Decisions

/-! ## The compiler makes these entries -/

section Compile

variable (known : List String) (profiles : Uuid → Option CompiledRoutingProfile)

theorem sortDedupStrings_eq (values : List String) :
    sortDedupStrings values = sortDedup (· ≤ ·) values := rfl

theorem mem_sortDedupStrings {model : String} {values : List String} :
    model ∈ sortDedupStrings values ↔ model ∈ values := by
  rw [sortDedupStrings_eq, mem_sortDedup]

theorem nodup_sortDedupStrings (values : List String) : (sortDedupStrings values).Nodup := by
  rw [sortDedupStrings_eq]
  exact (increasing_sortDedup values).imp fun h => h.2

/-- The loop over the models of one policy. -/
theorem routeModels_eq {policy : ModelRoutingPolicy} {models : List String} (hnd : models.Nodup)
    (routed : List String × List CompiledModelRoutingPolicy) :
    models.foldl (fun routed model =>
        if routed.1.contains model then routed
        else
          let fallbackSegments := buildCompiledFallbackSegments policy.fallbackProfileIds profiles
          if fallbackSegments.isEmpty then routed
          else (model :: routed.1, routed.2 ++ [compilePolicy policy model fallbackSegments]))
        routed =
      let taken := if policyUsable profiles policy then
          models.filter fun model => !routed.1.contains model
        else []
      (taken.reverse ++ routed.1,
        routed.2 ++ taken.map fun model => compiledEntry profiles (policy, model)) := by
  induction models generalizing routed with
  | nil =>
      cases policyUsable profiles policy <;> simp
  | cons model models ih =>
      have hrest := List.nodup_cons.1 hnd
      rw [List.foldl_cons, ih hrest.2]
      by_cases hrouted : routed.1.contains model = true
      · rw [if_pos hrouted, List.filter_cons_of_neg (by simpa using hrouted)]
      · rw [if_neg hrouted, List.filter_cons_of_pos (by simpa using hrouted)]
        cases hsegments :
          (buildCompiledFallbackSegments policy.fallbackProfileIds profiles).isEmpty with
        | true => simp [policyUsable, policySegments, hsegments]
        | false =>
            have hfilter : (models.filter fun m => !(model :: routed.1).contains m) =
                models.filter fun m => !routed.1.contains m := by
              apply List.filter_congr
              intro m hm
              have hne : m ≠ model := fun h => hrest.1 (h ▸ hm)
              simp [hne]
            have husable : policyUsable profiles policy = true := by
              simp [policyUsable, policySegments, hsegments]
            simp only [hsegments, Bool.false_eq_true, if_false, husable, if_true, hfilter,
              List.reverse_cons, List.append_assoc, List.map_cons, List.cons_append,
              List.nil_append]
            rfl

theorem routeExplicitPolicy_eq (routed : List String × List CompiledModelRoutingPolicy)
    (policy : ModelRoutingPolicy) :
    routeExplicitPolicy known profiles routed policy =
      let models := decidedModels known (policyUsable profiles) routed.1 policy
      (models.reverse ++ routed.1,
        routed.2 ++ models.map fun model => compiledEntry profiles (policy, model)) :=
  routeModels_eq profiles (nodup_sortDedupStrings _) routed

theorem routeExplicitPolicies_snd (policies : List ModelRoutingPolicy)
    (routed : List String × List CompiledModelRoutingPolicy) :
    (policies.foldl (routeExplicitPolicy known profiles) routed).2 =
      routed.2 ++ (decisions known (policyUsable profiles) routed.1 policies).map
        (compiledEntry profiles) := by
  induction policies generalizing routed with
  | nil => simp [decisions]
  | cons policy policies ih =>
      rw [List.foldl_cons, ih, routeExplicitPolicy_eq, decisions]
      simp [List.map_append, List.append_assoc, Function.comp_def]

theorem mem_routeExplicitPolicies_fst (policies : List ModelRoutingPolicy)
    (routed : List String × List CompiledModelRoutingPolicy) (model : String) :
    model ∈ (policies.foldl (routeExplicitPolicy known profiles) routed).1 ↔
      model ∈ routed.1 ∨
        model ∈ (decisions known (policyUsable profiles) routed.1 policies).map (·.2) := by
  induction policies generalizing routed with
  | nil => simp [decisions]
  | cons policy policies ih =>
      rw [List.foldl_cons, ih, routeExplicitPolicy_eq, decisions]
      simp only [List.mem_append, List.mem_reverse, List.map_append, List.map_map]
      have hmodels : (decidedModels known (policyUsable profiles) routed.1 policy).map
          ((·.2) ∘ fun model => (policy, model)) =
            decidedModels known (policyUsable profiles) routed.1 policy := List.map_id _
      rw [hmodels]
      tauto

/-- The explicit policies and then the default one fill the plan with its entries. -/
theorem routes_eq (explicit : List ModelRoutingPolicy) (default : Option ModelRoutingPolicy) :
    (let routed := explicit.foldl (routeExplicitPolicy known profiles) ([], [])
     match default with
      | none => ([], routed.2)
      | some policy =>
        (policySegments profiles policy, routed.2 ++
          if (policySegments profiles policy).isEmpty then []
          else (known.filter fun model => !routed.1.contains model).map fun model =>
            compiledEntry profiles (policy, model))) =
      (default.elim [] (policySegments profiles),
        (planEntries known (policyUsable profiles) explicit default).map
          (compiledEntry profiles)) := by
  have hsnd := routeExplicitPolicies_snd known profiles explicit ([], [])
  rw [List.nil_append] at hsnd
  cases default with
  | none => simp [planEntries, defaultDecisions, hsnd]
  | some policy =>
      have hleft : (known.filter fun model => !(explicit.foldl (routeExplicitPolicy known profiles)
          ([], [])).1.contains model) = known.filter fun model =>
            !((decisions known (policyUsable profiles) [] explicit).map (·.2)).contains model := by
        apply List.filter_congr
        intro model _
        have hfst := mem_routeExplicitPolicies_fst known profiles explicit ([], []) model
        rw [or_iff_right (List.not_mem_nil)] at hfst
        rw [List.contains_eq_mem, List.contains_eq_mem]
        exact congrArg not (Bool.decide_congr hfst)
      cases hsegments : (policySegments profiles policy).isEmpty with
      | true => simp [planEntries, defaultDecisions, policyUsable, hsegments, hsnd]
      | false =>
          have husable : policyUsable profiles policy = true := by
            simp [policyUsable, hsegments]
          simp only [planEntries, defaultDecisions, husable, hsnd, hleft, hsegments, if_true,
            Bool.false_eq_true, if_false, Option.elim_some, List.map_append, List.map_map]
          rfl

theorem compileRoutes_eq (accounts : List UpstreamAccount)
    (accountTraits : List AccountRoutingTraits) (profiles : List RoutingProfile)
    (sourcePolicies : List ModelRoutingPolicy) (now : DateTime) :
    compileRoutes accounts accountTraits profiles sourcePolicies now =
      let compiled := compiledProfiles accounts accountTraits profiles now
      ((defaultPolicy sourcePolicies).elim [] (policySegments compiled),
        (planEntries (knownModels accountTraits sourcePolicies) (policyUsable compiled)
          (explicitPolicies sourcePolicies) (defaultPolicy sourcePolicies)).map
            (compiledEntry compiled)) :=
  routes_eq (knownModels accountTraits sourcePolicies)
    (compiledProfiles accounts accountTraits profiles now) (explicitPolicies sourcePolicies)
    (defaultPolicy sourcePolicies)

end Compile

/-! ## The entry of a model -/

section Lookup

variable {known : List String} {usable : ModelRoutingPolicy → Bool}

variable {policy : ModelRoutingPolicy} {model : String}

theorem mem_listedModels :
    model ∈ listedModels known policy ↔
      model ∈ policy.exactModels ∨ model ∈ known ∧ hasPrefixOf policy model = true := by
  rw [listedModels, mem_sortDedupStrings, List.mem_append, List.mem_filter]

theorem mem_decidedModels {routed : List String} :
    model ∈ decidedModels known usable routed policy ↔
      usable policy = true ∧ model ∈ listedModels known policy ∧ model ∉ routed := by
  unfold decidedModels
  split
  · rename_i husable
    simp [husable]
  · rename_i husable
    simp [husable]

theorem find?_entries {models : List String} :
    (models.map fun m => (policy, m)).find? (fun entry => entry.2 = model) =
      if model ∈ models then some (policy, model) else none := by
  induction models with
  | nil => rfl
  | cons m models ih =>
      rw [List.map_cons, List.find?_cons, ih]
      by_cases hm : m = model
      · simp [hm]
      · simp [hm, Ne.symm hm]

/-- The first of the policies that lists the model and can be used decides. -/
theorem find?_decisions (policies : List ModelRoutingPolicy) (routed : List String)
    (model : String) :
    (decisions known usable routed policies).find? (fun entry => entry.2 = model) =
      if model ∈ routed then none
      else
        (policies.find? fun policy =>
          usable policy && (listedModels known policy).contains model).map
        (·, model) := by
  induction policies generalizing routed with
  | nil => simp [decisions]
  | cons policy policies ih =>
      have hdecided : model ∈ decidedModels known usable routed policy ↔
          usable policy = true ∧ model ∈ listedModels known policy ∧ model ∉ routed :=
        mem_decidedModels
      rw [decisions, List.find?_append, find?_entries, ih, List.find?_cons]
      by_cases hrouted : model ∈ routed
      · simp [hrouted, hdecided]
      · cases hlists : (usable policy && (listedModels known policy).contains model) with
        | true =>
            rw [Bool.and_eq_true, List.contains_iff_mem] at hlists
            simp [hrouted, hdecided, hlists]
        | false =>
            have hnot : model ∉ decidedModels known usable routed policy := by
              intro hmem
              rcases hdecided.1 hmem with ⟨husable, hlisted, _⟩
              simp [husable, hlisted] at hlists
            simp [hrouted, hnot]

variable (known usable) in
/-- The policy that decides about a model: the first that lists it and can be used, else the
default policy if the model is known. -/
def decider (explicit : List ModelRoutingPolicy) (default : Option ModelRoutingPolicy)
    (model : String) : Option ModelRoutingPolicy :=
  (explicit.find? fun policy => usable policy && (listedModels known policy).contains model).or
    (default.filter fun policy => usable policy && known.contains model)

theorem find?_planEntries (explicit : List ModelRoutingPolicy) (default : Option ModelRoutingPolicy)
    (model : String) :
    (planEntries known usable explicit default).find? (fun entry => entry.2 = model) =
      (decider known usable explicit default model).map (·, model) := by
  unfold decider
  have hexplicit : (decisions known usable [] explicit).find? (fun entry => entry.2 = model) = _ :=
    find?_decisions explicit [] model
  rw [if_neg List.not_mem_nil] at hexplicit
  rw [planEntries, List.find?_append, hexplicit]
  cases hfirst : explicit.find? fun policy =>
      usable policy && (listedModels known policy).contains model with
  | some policy => rfl
  | none =>
      rw [hfirst, Option.map_none, List.find?_eq_none] at hexplicit
      have hleft : model ∉ (decisions known usable [] explicit).map (·.2) := by
        intro hmem
        rcases List.mem_map.1 hmem with ⟨entry, hentry, hmodel⟩
        exact hexplicit entry hentry (decide_eq_true hmodel)
      cases default with
      | none => rfl
      | some policy =>
          cases husable : usable policy with
          | false => simp [defaultDecisions, husable]
          | true =>
              rw [Option.map_none, Option.none_or, Option.none_or]
              simp only [defaultDecisions, husable, if_true]
              rw [find?_entries]
              by_cases hknown : model ∈ known
              · simp [hknown, hleft, husable]
              · simp [hknown]

theorem nodup_decidedModels (routed : List String) (policy : ModelRoutingPolicy) :
    (decidedModels known usable routed policy).Nodup := by
  unfold decidedModels
  split
  · exact (nodup_sortDedupStrings _).filter _
  · exact List.nodup_nil

theorem map_snd_entries (policy : ModelRoutingPolicy) (models : List String) :
    (models.map fun model => (policy, model)).map (·.2) = models := by
  rw [List.map_map]
  exact List.map_id models

theorem nodup_decisions (policies : List ModelRoutingPolicy) (routed : List String) :
    ((decisions known usable routed policies).map (·.2)).Nodup ∧
      ∀ model ∈ (decisions known usable routed policies).map (·.2), model ∉ routed := by
  induction policies generalizing routed with
  | nil => exact ⟨List.nodup_nil, nofun⟩
  | cons policy policies ih =>
      have hrest := ih ((decidedModels known usable routed policy).reverse ++ routed)
      rw [decisions, List.map_append, map_snd_entries]
      constructor
      · apply List.Nodup.append (nodup_decidedModels routed policy) hrest.1
        intro model hdecided hlater
        apply hrest.2 model hlater
        exact List.mem_append_left _ (List.mem_reverse.2 hdecided)
      · intro model hmem
        rcases List.mem_append.1 hmem with hdecided | hlater
        · exact (mem_decidedModels.1 hdecided).2.2
        · exact fun hrouted => hrest.2 model hlater (List.mem_append_right _ hrouted)

theorem nodup_planEntries (hknown : known.Nodup) (explicit : List ModelRoutingPolicy)
    (default : Option ModelRoutingPolicy) :
    ((planEntries known usable explicit default).map (·.2)).Nodup := by
  rw [planEntries, List.map_append]
  apply List.Nodup.append (nodup_decisions explicit []).1
  · cases default with
    | none => exact List.nodup_nil
    | some policy =>
        unfold defaultDecisions
        dsimp only
        split
        · rw [map_snd_entries]
          exact hknown.filter _
        · exact List.nodup_nil
  · intro model hdecided hleft
    cases default with
    | none => cases hleft
    | some policy =>
        unfold defaultDecisions at hleft
        dsimp only at hleft
        split at hleft
        · rw [map_snd_entries, List.mem_filter, Bool.not_eq_true', List.contains_eq_mem,
            decide_eq_false_iff_not] at hleft
          exact hleft.2 hdecided
        · cases hleft

theorem mem_planEntries_iff (hknown : known.Nodup) {explicit : List ModelRoutingPolicy}
    {default : Option ModelRoutingPolicy} :
    (policy, model) ∈ planEntries known usable explicit default ↔
      decider known usable explicit default model = some policy := by
  have hfind :
      (planEntries known usable explicit default).find? (fun entry => entry.2 = model) = _ :=
    find?_planEntries explicit default model
  constructor
  · intro hmem
    have hfirst := Keyed.lookupBy_of_mem (nodup_planEntries hknown explicit default) hmem
    rw [Keyed.lookupBy, hfind, Option.map_eq_some_iff] at hfirst
    rcases hfirst with ⟨policy', hdecider, hpair⟩
    rw [hdecider, (Prod.mk.inj hpair).1]
  · intro hdecider
    rw [hdecider, Option.map_some] at hfind
    exact List.mem_of_find?_eq_some hfind

end Lookup

/-! ## Policies that are written differently -/

theorem decisions_map {known : List String} {usable : ModelRoutingPolicy → Bool}
    {f : ModelRoutingPolicy → ModelRoutingPolicy} {policies : List ModelRoutingPolicy}
    (hf : ∀ policy ∈ policies, usable (f policy) = usable policy ∧
      listedModels known (f policy) = listedModels known policy) (routed : List String) :
    decisions known usable routed (policies.map f) =
      (decisions known usable routed policies).map fun entry => (f entry.1, entry.2) := by
  induction policies generalizing routed with
  | nil => rfl
  | cons policy policies ih =>
      rcases hf policy List.mem_cons_self with ⟨husable, hlisted⟩
      have hmodels : decidedModels known usable routed (f policy) =
          decidedModels known usable routed policy := by
        rw [decidedModels, decidedModels, husable, hlisted]
      rw [List.map_cons, decisions, decisions, hmodels,
        ih (fun policy hmem => hf policy (List.mem_cons_of_mem _ hmem)), List.map_append,
        List.map_map]
      rfl

theorem planEntries_map {known : List String} {usable : ModelRoutingPolicy → Bool}
    {f : ModelRoutingPolicy → ModelRoutingPolicy} {explicit : List ModelRoutingPolicy}
    {default : Option ModelRoutingPolicy}
    (hf : ∀ policy ∈ explicit, usable (f policy) = usable policy ∧
      listedModels known (f policy) = listedModels known policy)
    (hdefault : ∀ policy ∈ default, usable (f policy) = usable policy) :
    planEntries known usable (explicit.map f) (default.map f) =
      (planEntries known usable explicit default).map fun entry => (f entry.1, entry.2) := by
  have hmodels : (decisions known usable [] (explicit.map f)).map (·.2) =
      (decisions known usable [] explicit).map (·.2) := by
    rw [decisions_map hf, List.map_map]
    rfl
  rw [planEntries, planEntries, hmodels, decisions_map hf, List.map_append]
  congr 1
  cases default with
  | none => rfl
  | some policy =>
      unfold defaultDecisions
      rw [Option.map_some]
      dsimp only
      rw [hdefault policy rfl]
      split
      · rw [List.map_map]
        rfl
      · rfl

end CodexPool
