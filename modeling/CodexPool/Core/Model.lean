import CodexPool.Basic
import CodexPool.Lib.Text

/-!
# Data shared by the control plane and the data plane

Upstream accounts, what is known of their health, the routing plan and what it is
compiled from, the error templates and the outbound proxies.
-/

namespace CodexPool

inductive UpstreamMode where
  | openAiApiKey
  | chatGptSession
  | codexOauth
deriving DecidableEq

structure UpstreamAccount where
  id : Uuid
  label : String
  mode : UpstreamMode
  baseUrl : String
  bearerToken : String
  chatgptAccountId : Option String
  enabled : Bool
  priority : Int
  createdAt : DateTime
deriving DecidableEq

inductive UpstreamAuthProvider where
  | legacyBearer
  | oauthRefreshToken
deriving DecidableEq

inductive AccountRoutingHealthFreshness where
  | unknown
  | stale
  | fresh
deriving DecidableEq

structure AccountRoutingTraits where
  accountId : Uuid
  planType : Option String
  authProvider : Option UpstreamAuthProvider
  supportedModels : List String
  healthFreshness : Option AccountRoutingHealthFreshness
  lastProbeAt : Option DateTime
  blockedUntil : Option DateTime
  hardBlockReason : Option String
deriving DecidableEq

/-! ## Routing -/

structure RoutingProfileSelector where
  planTypes : List String
  modes : List UpstreamMode
  authProviders : List UpstreamAuthProvider
  includeAccountIds : List Uuid
  excludeAccountIds : List Uuid
deriving DecidableEq

structure RoutingProfile where
  id : Uuid
  name : String
  description : Option String
  enabled : Bool
  priority : Int
  selector : RoutingProfileSelector
  createdAt : DateTime
  updatedAt : DateTime
deriving DecidableEq

structure ModelRoutingPolicy where
  id : Uuid
  name : String
  family : String
  exactModels : List String
  modelPrefixes : List String
  fallbackProfileIds : List Uuid
  enabled : Bool
  priority : Int
  createdAt : DateTime
  updatedAt : DateTime
deriving DecidableEq

structure CompiledRoutingProfile where
  id : Uuid
  name : String
  accountIds : List Uuid
deriving DecidableEq

structure CompiledModelRoutingPolicy where
  id : Uuid
  name : String
  family : String
  exactModels : List String
  modelPrefixes : List String
  fallbackSegments : List CompiledRoutingProfile
deriving DecidableEq

structure CompiledRoutingPlan where
  versionId : Uuid
  publishedAt : DateTime
  triggerReason : Option String
  defaultRoute : List CompiledRoutingProfile
  policies : List CompiledModelRoutingPolicy
deriving DecidableEq

inductive ClaudeCodeEffortFallbackMode where
  | clampDown
  | omit_
deriving DecidableEq

structure ClaudeCodeFamilyEffortRouting where
  sourceToTarget : List (String × Option String)
  defaultTargetEffort : Option String
deriving DecidableEq

structure ClaudeCodeEffortRoutingSettings where
  fallbackMode : ClaudeCodeEffortFallbackMode
  opus : ClaudeCodeFamilyEffortRouting
  sonnet : ClaudeCodeFamilyEffortRouting
  haiku : ClaudeCodeFamilyEffortRouting
deriving DecidableEq

structure ClaudeCodeRoutingSettings where
  enabled : Bool
  opusTargetModel : Option String
  sonnetTargetModel : Option String
  haikuTargetModel : Option String
  effortRouting : ClaudeCodeEffortRoutingSettings
  updatedAt : DateTime
deriving DecidableEq

def defaultClaudeCodeEffortRouting : ClaudeCodeEffortRoutingSettings :=
  { fallbackMode := .clampDown
    opus :=
      { sourceToTarget :=
          [("high", some "high"), ("low", some "low"), ("max", some "xhigh"),
            ("medium", some "medium")]
        defaultTargetEffort := some "xhigh" }
    sonnet :=
      { sourceToTarget := [("high", some "high"), ("low", some "low"), ("medium", some "medium")]
        defaultTargetEffort := some "high" }
    haiku := { sourceToTarget := [], defaultTargetEffort := none } }

def defaultClaudeCodeRoutingSettings (updatedAt : DateTime) : ClaudeCodeRoutingSettings :=
  { enabled := false
    opusTargetModel := some "gpt-5.4"
    sonnetTargetModel := some "gpt-5.4-mini"
    haikuTargetModel := some "gpt-5.4-mini"
    effortRouting := defaultClaudeCodeEffortRouting
    updatedAt := updatedAt }

/-! ## Errors -/

structure AiErrorLearningSettings where
  enabled : Bool := false
  firstSeenTimeoutMs : Nat := 2000
  reviewHitThreshold : Nat := 10
  updatedAt : Option DateTime := none
deriving DecidableEq

structure LocalizedErrorTemplates where
  en : Option String := none
  zhCn : Option String := none
  zhTw : Option String := none
  ja : Option String := none
  ru : Option String := none
deriving DecidableEq

inductive UpstreamErrorAction where
  | returnFailure
  | retrySameAccount
  | retryCrossAccount
deriving DecidableEq

inductive UpstreamErrorRetryScope where
  | none
  | sameAccount
  | crossAccount
deriving DecidableEq

inductive BuiltinErrorTemplateKind where
  | gatewayError
  | heuristicUpstream
deriving DecidableEq

inductive UpstreamErrorTemplateStatus where
  | provisionalLive
  | reviewPending
  | approved
  | rejected
deriving DecidableEq

structure UpstreamErrorTemplateRecord where
  id : Uuid
  fingerprint : String
  provider : String
  normalizedStatusCode : Nat
  semanticErrorCode : String
  action : UpstreamErrorAction
  retryScope : UpstreamErrorRetryScope
  status : UpstreamErrorTemplateStatus
  templates : LocalizedErrorTemplates
  representativeSamples : List String
  hitCount : Nat
  firstSeenAt : DateTime
  lastSeenAt : DateTime
  updatedAt : DateTime
deriving DecidableEq

structure BuiltinErrorTemplateRecord where
  kind : BuiltinErrorTemplateKind
  code : String
  templates : LocalizedErrorTemplates
  defaultTemplates : LocalizedErrorTemplates
  action : Option UpstreamErrorAction
  retryScope : Option UpstreamErrorRetryScope
  isOverridden : Bool
  updatedAt : Option DateTime
deriving DecidableEq

/-! ## Outbound proxies -/

inductive ProxyFailMode where
  | strictProxy
  | allowDirectFallback
deriving DecidableEq

structure OutboundProxyPoolSettings where
  enabled : Bool
  failMode : ProxyFailMode
  updatedAt : DateTime
deriving DecidableEq

structure OutboundProxyNode where
  id : Uuid
  label : String
  proxyUrl : String
  enabled : Bool
  weight : Nat
  lastTestStatus : Option String
  lastLatencyMs : Option Nat
  lastError : Option String
  lastTestedAt : Option DateTime
  createdAt : DateTime
  updatedAt : DateTime
deriving DecidableEq

/-! ## What the control plane serves -/

/-- A full snapshot. The clock reading at which it was issued is left out. -/
structure DataPlaneSnapshot where
  revision : Nat
  cursor : Nat
  accounts : List UpstreamAccount
  accountTraits : List AccountRoutingTraits
  compiledRoutingPlan : Option CompiledRoutingPlan
  aiErrorLearningSettings : AiErrorLearningSettings
  approvedUpstreamErrorTemplates : List UpstreamErrorTemplateRecord
  builtinErrorTemplates : List BuiltinErrorTemplateRecord
  outboundProxyPoolSettings : OutboundProxyPoolSettings
  outboundProxyNodes : List OutboundProxyNode
  claudeCodeRoutingSettings : ClaudeCodeRoutingSettings
deriving DecidableEq

inductive DataPlaneSnapshotEventType where
  | accountUpsert
  | accountDelete
  | routingPlanRefresh
deriving DecidableEq

structure DataPlaneSnapshotEvent where
  id : Nat
  eventType : DataPlaneSnapshotEventType
  accountId : Uuid
  account : Option UpstreamAccount
  compiledRoutingPlan : Option CompiledRoutingPlan
  aiErrorLearningSettings : Option AiErrorLearningSettings
  approvedUpstreamErrorTemplates : Option (List UpstreamErrorTemplateRecord)
  builtinErrorTemplates : Option (List BuiltinErrorTemplateRecord)
  outboundProxyPoolSettings : Option OutboundProxyPoolSettings
  outboundProxyNodes : Option (List OutboundProxyNode)
  claudeCodeRoutingSettings : Option ClaudeCodeRoutingSettings
deriving DecidableEq

structure DataPlaneSnapshotEventsResponse where
  cursor : Nat
  highWatermark : Nat
  events : List DataPlaneSnapshotEvent
deriving DecidableEq

end CodexPool
