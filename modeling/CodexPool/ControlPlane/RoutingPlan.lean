import CodexPool.ControlPlane.Account
import CodexPool.Lib.Keyed

/-!
# The compiled routing plan

A plan is compiled from the accounts and their traits, the routing profiles, which
select accounts, and the policies, which send a model to a list of profiles. The map
of the traits is given by the list of its values.
-/

namespace CodexPool

open Keyed

def sortDedupStrings (values : List String) : List String :=
  (values.insertionSort (· ≤ ·)).eraseReps

def eqIgnoreAsciiCase (a b : String) : Bool :=
  Text.toAsciiLowercase a = Text.toAsciiLowercase b

/-- An account that is excluded does not match a profile, one that is included does;
any other has to meet each selector that is not empty. -/
def profileMatchesAccount (accountTraits : List AccountRoutingTraits)
    (profile : RoutingProfile) (account : UpstreamAccount) : Bool :=
  let selector := profile.selector
  if selector.excludeAccountIds.contains account.id then false
  else if selector.includeAccountIds.contains account.id then true
  else match lookupBy (·.accountId) accountTraits account.id with
    | none => false
    | some traits =>
      (selector.planTypes.isEmpty ||
          traits.planType.any fun planType =>
            selector.planTypes.any fun candidate => eqIgnoreAsciiCase candidate planType) &&
        (selector.modes.isEmpty || selector.modes.contains account.mode) &&
        (selector.authProviders.isEmpty ||
          traits.authProvider.any fun provider => selector.authProviders.contains provider)

def accountIsRoutingBlocked (accountTraits : List AccountRoutingTraits) (accountId : Uuid)
    (now : DateTime) : Bool :=
  ((lookupBy (·.accountId) accountTraits accountId).bind (·.blockedUntil)).any (now < ·)

/-- The order of the accounts of a profile: the higher priority first, then the
older one. -/
def accountPrecedes (left right : UpstreamAccount) : Prop :=
  right.priority < left.priority ∨
    right.priority = left.priority ∧ left.createdAt ≤ right.createdAt

instance (left right : UpstreamAccount) : Decidable (accountPrecedes left right) :=
  inferInstanceAs (Decidable (_ ∨ _ ∧ _))

def compileProfile (accounts : List UpstreamAccount)
    (accountTraits : List AccountRoutingTraits) (now : DateTime) (profile : RoutingProfile) :
    CompiledRoutingProfile :=
  let matched := accounts.filter fun account =>
    profileMatchesAccount accountTraits profile account &&
      !accountIsRoutingBlocked accountTraits account.id now
  { id := profile.id
    name := profile.name
    accountIds := (matched.insertionSort accountPrecedes).map (·.id) }

def buildCompiledFallbackSegments (profileIds : List Uuid)
    (compiledProfiles : Uuid → Option CompiledRoutingProfile) :
    List CompiledRoutingProfile :=
  (profileIds.filterMap compiledProfiles).filter fun profile => !profile.accountIds.isEmpty

def compilePolicy (policy : ModelRoutingPolicy) (model : String)
    (fallbackSegments : List CompiledRoutingProfile) : CompiledModelRoutingPolicy :=
  { id := policy.id, name := policy.name, family := policy.family
    exactModels := [model], modelPrefixes := [], fallbackSegments := fallbackSegments }

def isDefaultPolicy (policy : ModelRoutingPolicy) : Bool :=
  policy.exactModels.isEmpty && policy.modelPrefixes.isEmpty

/-- Routes the models of one explicit policy: those it lists and the known ones with
one of its prefixes, unless an earlier policy routes them or no account is left. -/
def routeExplicitPolicy (knownModels : List String)
    (compiledProfiles : Uuid → Option CompiledRoutingProfile)
    (routed : List String × List CompiledModelRoutingPolicy) (policy : ModelRoutingPolicy) :
    List String × List CompiledModelRoutingPolicy :=
  let exactModels := sortDedupStrings
    (policy.exactModels ++ knownModels.filter fun model =>
      policy.modelPrefixes.any fun p => Text.startsWith model p)
  exactModels.foldl (fun routed model =>
    if routed.1.contains model then routed
    else
      let fallbackSegments :=
        buildCompiledFallbackSegments policy.fallbackProfileIds compiledProfiles
      if fallbackSegments.isEmpty then routed
      else (model :: routed.1, routed.2 ++ [compilePolicy policy model fallbackSegments]))
    routed

/-- The default route and the policies of a plan. -/
def compileRoutes (accounts : List UpstreamAccount)
    (accountTraits : List AccountRoutingTraits) (profiles : List RoutingProfile)
    (sourcePolicies : List ModelRoutingPolicy) (now : DateTime) :
    List CompiledRoutingProfile × List CompiledModelRoutingPolicy :=
  let compiledProfiles := collectBy (·.id)
    ((profiles.filter (·.enabled)).map (compileProfile accounts accountTraits now))
  let enabledPolicies := sourcePolicies.filter (·.enabled)
  let defaultPolicy := enabledPolicies.find? isDefaultPolicy
  let explicitPolicies := enabledPolicies.filter fun policy => !isDefaultPolicy policy
  let knownModels := sortDedupStrings
    (accountTraits.flatMap (·.supportedModels) ++ explicitPolicies.flatMap (·.exactModels))
  let routed := explicitPolicies.foldl (routeExplicitPolicy knownModels compiledProfiles) ([], [])
  match defaultPolicy with
  | none => ([], routed.2)
  | some policy =>
    let fallbackSegments :=
      buildCompiledFallbackSegments policy.fallbackProfileIds compiledProfiles
    let rest := if fallbackSegments.isEmpty then []
      else (knownModels.filter fun model => !routed.1.contains model).map fun model =>
        compilePolicy policy model fallbackSegments
    (fallbackSegments, routed.2 ++ rest)

/-- There is no plan when nothing is routed. -/
def compileRoutingPlanFromState (accounts : List UpstreamAccount)
    (accountTraits : List AccountRoutingTraits) (profiles : List RoutingProfile)
    (sourcePolicies : List ModelRoutingPolicy) (versionId : Uuid) (publishedAt : DateTime)
    (triggerReason : Option String) : Option CompiledRoutingPlan :=
  let routes := compileRoutes accounts accountTraits profiles sourcePolicies publishedAt
  if routes.1.isEmpty && routes.2.isEmpty then none
  else some
    { versionId := versionId, publishedAt := publishedAt, triggerReason := triggerReason
      defaultRoute := routes.1, policies := routes.2 }

end CodexPool
