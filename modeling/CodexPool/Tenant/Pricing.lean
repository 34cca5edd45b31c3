import CodexPool.Basic
import CodexPool.Lib.Json
import CodexPool.Lib.Saturating
import CodexPool.Lib.Text
import Mathlib.Data.List.Sort

/-!
# Model pricing

The price of a request starts from a base price (a manual override for the
service tier, the synchronised catalog, or the configured fallback), is scaled
by the pricing rules when the request is in the long-context band, and is
scaled again, or replaced, by the group of the API key.

`PricingTables` holds the rows these lookups read. They are read outside the
billing transactions, so that every operation receives the tables as they are
when it runs.

Prices are in millionths of the currency unit for a million tokens. Charges
are computed in 128-bit integers and rounded to the nearest unit.
-/

namespace CodexPool

open Saturating

/-! ## Token prices -/

structure TokenPriceMicrousd where
  inputPriceMicrousd : I64
  cachedInputPriceMicrousd : I64
  outputPriceMicrousd : I64

def pricePerMillionTokensScale : Int := 1000000

def chargeTokensByPerMillionPrice (tokens pricePerMillionMicrousd : I64) : I64 :=
  let normalizedTokens := (max tokens 0).toI128
  let normalizedPrice := (max pricePerMillionMicrousd 0).toI128
  if normalizedTokens.val = 0 ∨ normalizedPrice.val = 0 then 0
  else
    let half : I128 := I64.toI128 (I64.ofInt (pricePerMillionTokensScale / 2))
    let numerator := (normalizedTokens.satMul normalizedPrice).satAdd half
    let charged := numerator.val / pricePerMillionTokensScale
    I64.ofInt (clamp 0 9223372036854775807 charged)

def calculateEstimatedCostMicrousd (inputTokens cachedInputTokens outputTokens : I64)
    (pricing : TokenPriceMicrousd) : I64 :=
  let normalizedInputTokens := max inputTokens 0
  let normalizedCachedInputTokens :=
    min (max cachedInputTokens 0) normalizedInputTokens
  let billableInputTokens :=
    normalizedInputTokens.satSub normalizedCachedInputTokens
  let normalizedOutputTokens := max outputTokens 0
  let inputCharge :=
    chargeTokensByPerMillionPrice billableInputTokens pricing.inputPriceMicrousd
  let cachedInputCharge :=
    chargeTokensByPerMillionPrice normalizedCachedInputTokens
      pricing.cachedInputPriceMicrousd
  let outputCharge :=
    chargeTokensByPerMillionPrice normalizedOutputTokens pricing.outputPriceMicrousd
  (inputCharge.satAdd cachedInputCharge).satAdd outputCharge

theorem chargeTokensByPerMillionPrice_nonneg (tokens price : I64) :
    0 ≤ (chargeTokensByPerMillionPrice tokens price).val := by
  simp only [chargeTokensByPerMillionPrice]
  split
  · rw [I64.val_zero]
  · have h₁ := le_clamp 0 9223372036854775807
    rw [I64.val_ofInt_of_mem (le_trans (by decide) (h₁ _)) (clamp_le (by decide) _)]
    exact h₁ _

/-- A cost is never negative, whatever the prices and the counts. -/
theorem calculateEstimatedCostMicrousd_nonneg (i c o : I64) (p : TokenPriceMicrousd) :
    0 ≤ (calculateEstimatedCostMicrousd i c o p).val :=
  I64.val_satAdd_nonneg
    (I64.val_satAdd_nonneg (chargeTokensByPerMillionPrice_nonneg _ _)
      (chargeTokensByPerMillionPrice_nonneg _ _))
    (chargeTokensByPerMillionPrice_nonneg _ _)

example : calculateEstimatedCostMicrousd 800 100 400 ⟨1250000, 125000, 10000000⟩ =
    4888 := by decide

/-! ## Requests and bands -/

inductive BillingRequestKind where
  | any
  | response
  | compact
  | chat
  | unknown
deriving DecidableEq, Repr

namespace BillingRequestKind

def asStr : BillingRequestKind → String
  | any => "any"
  | response => "response"
  | compact => "compact"
  | chat => "chat"
  | unknown => "unknown"

def fromOptional (raw : Option String) : BillingRequestKind :=
  match Text.toAsciiLowercase (Text.trim (raw.getD "unknown")) with
  | "any" => any
  | "response" => response
  | "compact" => compact
  | "chat" => chat
  | _ => unknown

end BillingRequestKind

inductive BillingPricingRuleScope where
  | request
  | session
deriving DecidableEq, Repr

def BillingPricingRuleScope.fromStr (raw : String) : BillingPricingRuleScope :=
  match Text.toAsciiLowercase (Text.trim raw) with
  | "session" => session
  | _ => request

inductive BillingPricingBand where
  | base
  | longContext
deriving DecidableEq, Repr

namespace BillingPricingBand

def asStr : BillingPricingBand → String
  | base => "base"
  | longContext => "long_context"

def fromOptional (raw : Option String) : BillingPricingBand :=
  match Text.toAsciiLowercase (Text.trim (raw.getD "base")) with
  | "long_context" => longContext
  | _ => base

end BillingPricingBand

inductive BillingResolutionPhase where
  | authorize
  | capture
deriving DecidableEq, Repr

structure BillingPricingResolved where
  inputPriceMicrocredits : I64
  cachedInputPriceMicrocredits : I64
  outputPriceMicrocredits : I64
  source : String
deriving DecidableEq

structure BillingPricingDecision where
  pricing : BillingPricingResolved
  band : BillingPricingBand
  matchedRuleId : Option Uuid

structure BillingPricingRequestContext where
  serviceTier : Option String
  apiKeyId : Option Uuid
  requestKind : BillingRequestKind
  persistedBand : Option BillingPricingBand
  actualInputTokens : Option I64
  phase : BillingResolutionPhase

/-- A row of `model_pricing_overrides`. -/
structure ModelPricingOverride where
  model : String
  serviceTier : String
  inputPriceMicrocredits : I64
  cachedInputPriceMicrocredits : I64
  outputPriceMicrocredits : I64
  enabled : Bool

/-- A row of `openai_models_catalog`, whose price columns may be null. -/
structure CatalogModel where
  modelId : String
  inputPriceMicrocredits : Option I64
  cachedInputPriceMicrocredits : Option I64
  outputPriceMicrocredits : Option I64

/-- A row of `billing_pricing_rules`. -/
structure BillingPricingRuleRecord where
  id : Uuid
  modelPattern : String
  requestKind : String
  scope : String
  thresholdInputTokens : Option I64
  inputMultiplierPpm : I64
  cachedInputMultiplierPpm : I64
  outputMultiplierPpm : I64
  priority : Int
  enabled : Bool
  createdAt : DateTime

structure ApiKeyGroupRecord where
  id : Uuid
  enabled : Bool
  allowAllModels : Bool
  inputMultiplierPpm : I64
  cachedInputMultiplierPpm : I64
  outputMultiplierPpm : I64
  deletedAt : Option DateTime

structure ApiKeyGroupModelPolicyRecord where
  id : Uuid
  groupId : Uuid
  modelId : String
  enabled : Bool
  inputMultiplierPpm : I64
  cachedInputMultiplierPpm : I64
  outputMultiplierPpm : I64
  inputPriceMicrocredits : Option I64
  cachedInputPriceMicrocredits : Option I64
  outputPriceMicrocredits : Option I64

structure ApiKeyGroupResolvedPricing where
  formula : BillingPricingResolved
  finalPricing : BillingPricingResolved
  usesAbsolutePricing : Bool

/-- The tables that pricing reads. An API key is a pair of its id and the id of
its group. -/
structure PricingTables where
  modelPricingOverrides : List ModelPricingOverride
  openaiModelsCatalog : List CatalogModel
  billingPricingRules : List BillingPricingRuleRecord
  apiKeys : List (Uuid × Uuid)
  apiKeyGroups : List ApiKeyGroupRecord
  apiKeyGroupModelPolicies : List ApiKeyGroupModelPolicyRecord

/-- The environment variables of billing, parsed; `none` when a variable is
missing or does not parse. -/
structure BillingEnv where
  authorizationTtlSec : Option Nat
  pricingFallbackEnabled : Option Bool
  defaultInputPriceMicrocredits : Option I64
  defaultOutputPriceMicrocredits : Option I64
  defaultCachedInputPriceMicrocredits : Option I64

namespace BillingEnv

def billingPricingFallbackEnabled (env : BillingEnv) : Bool :=
  env.pricingFallbackEnabled.getD true

def billingDefaultInputPriceMicrocredits (env : BillingEnv) : Option I64 :=
  env.defaultInputPriceMicrocredits.filter (0 < ·)

def billingDefaultOutputPriceMicrocredits (env : BillingEnv) : Option I64 :=
  env.defaultOutputPriceMicrocredits.filter (0 < ·)

def billingDefaultCachedInputPriceMicrocredits (env : BillingEnv) : Option I64 :=
  env.defaultCachedInputPriceMicrocredits.filter (0 ≤ ·)

end BillingEnv

def billingMultiplierPpmOne : I64 := 1000000

def normalizeCachedInputPriceMicrocredits (inputPrice cachedInputPrice : I64) : I64 :=
  if cachedInputPrice ≤ 0 then max inputPrice 0 else cachedInputPrice

def normalizeBillingServiceTier (raw : Option String) : String :=
  match Text.toAsciiLowercase (Text.trim (raw.getD "default")) with
  | "priority" => "priority"
  | "fast" => "priority"
  | "flex" => "flex"
  | _ => "default"

def pricingOverrideLookupTiers (serviceTier : String) : List String :=
  match serviceTier with
  | "priority" => ["priority", "default"]
  | "flex" => ["flex", "default"]
  | _ => ["default"]

def billingRuleMatchesModel (modelPattern model : String) : Bool :=
  let normalizedPattern := Text.trim modelPattern
  if normalizedPattern = "" then false
  else if normalizedPattern = model then true
  else
    match Text.stripSuffix normalizedPattern '*' with
    | some stem => stem ≠ "" && Text.startsWith model stem
    | none => false

def billingRuleMatchesRequestKind (ruleRequestKind : String)
    (requestKind : BillingRequestKind) : Bool :=
  let ruleKind := BillingRequestKind.fromOptional (some ruleRequestKind)
  ruleKind = .any || ruleKind = requestKind

def applyMultiplierPpm (priceMicrocredits multiplierPpm : I64) : I64 :=
  let half : I128 := I64.toI128 (I64.ofInt (billingMultiplierPpmOne.val / 2))
  let numerator :=
    ((max priceMicrocredits 0).toI128.satMul (max multiplierPpm 0).toI128).satAdd half
  I64.ofInt (clamp 0 9223372036854775807 (numerator.val / billingMultiplierPpmOne.val))

/-- A rule that puts a request of so many input tokens into the long-context
band. A rule on sessions does so only when the request is captured. -/
def BillingPricingRuleRecord.reached (rule : BillingPricingRuleRecord)
    (inputTokens : Option I64) (phase : BillingResolutionPhase) : Bool :=
  let threshold := max (rule.thresholdInputTokens.getD 0) 0
  let thresholdReached : Bool := threshold ≤ inputTokens.getD 0
  match BillingPricingRuleScope.fromStr rule.scope with
  | .session => phase = .capture && thresholdReached
  | .request => thresholdReached

def resolveEffectivePricingForBand (base : BillingPricingResolved)
    (rules : List BillingPricingRuleRecord) (model : String)
    (requestKind : BillingRequestKind) (persistedBand : Option BillingPricingBand)
    (actualInputTokens : Option I64) (phase : BillingResolutionPhase) :
    BillingPricingDecision :=
  let normalizedInputTokens := actualInputTokens.map (max · 0)
  let matchingRules := rules.filter fun rule =>
    billingRuleMatchesModel rule.modelPattern model &&
      billingRuleMatchesRequestKind rule.requestKind requestKind
  let band : BillingPricingBand :=
    match persistedBand with
    | some .longContext => .longContext
    | _ =>
      if matchingRules.any fun rule => rule.reached normalizedInputTokens phase then
        .longContext
      else .base
  let matchedRule := if band = .longContext then matchingRules.head? else none
  let pricing :=
    match matchedRule with
    | some rule =>
      { inputPriceMicrocredits :=
          applyMultiplierPpm base.inputPriceMicrocredits rule.inputMultiplierPpm
        cachedInputPriceMicrocredits :=
          applyMultiplierPpm base.cachedInputPriceMicrocredits
            rule.cachedInputMultiplierPpm
        outputPriceMicrocredits :=
          applyMultiplierPpm base.outputPriceMicrocredits rule.outputMultiplierPpm
        source := base.source ++ "+rule:" ++ rule.id.text }
    | none => base
  { pricing, band, matchedRuleId := matchedRule.map (·.id) }

def policyHasAbsolutePricing (policy : Option ApiKeyGroupModelPolicyRecord) : Bool :=
  policy.any fun item =>
    item.inputPriceMicrocredits.isSome && item.cachedInputPriceMicrocredits.isSome &&
      item.outputPriceMicrocredits.isSome

def applyApiKeyGroupModelPricing (base : BillingPricingResolved)
    (group : ApiKeyGroupRecord) (policy : Option ApiKeyGroupModelPolicyRecord) :
    ApiKeyGroupResolvedPricing :=
  let scale (price groupPpm : I64) (policyPpm : ApiKeyGroupModelPolicyRecord → I64) :=
    applyMultiplierPpm (applyMultiplierPpm price groupPpm)
      ((policy.map policyPpm).getD billingMultiplierPpmOne)
  let formula : BillingPricingResolved :=
    { inputPriceMicrocredits :=
        scale base.inputPriceMicrocredits group.inputMultiplierPpm (·.inputMultiplierPpm)
      cachedInputPriceMicrocredits :=
        scale base.cachedInputPriceMicrocredits group.cachedInputMultiplierPpm
          (·.cachedInputMultiplierPpm)
      outputPriceMicrocredits :=
        scale base.outputPriceMicrocredits group.outputMultiplierPpm
          (·.outputMultiplierPpm)
      source := base.source ++ "+group_formula:" ++ group.id.text }
  match policy.filter fun _ => policyHasAbsolutePricing policy with
  | some item =>
    { formula
      finalPricing :=
        { inputPriceMicrocredits := item.inputPriceMicrocredits.getD 0
          cachedInputPriceMicrocredits := item.cachedInputPriceMicrocredits.getD 0
          outputPriceMicrocredits := item.outputPriceMicrocredits.getD 0
          source := base.source ++ "+group_absolute:" ++ item.id.text }
      usesAbsolutePricing := true }
  | none => { formula, finalPricing := formula, usesAbsolutePricing := false }

def ensureApiKeyGroupIsUsable (group : ApiKeyGroupRecord) : Result Unit :=
  if group.deletedAt.isSome || !group.enabled then
    .error "api key group is unavailable"
  else .ok ()

namespace PricingTables

def fetchApiKeyGroupForApiKey (tables : PricingTables) (apiKeyId : Uuid) :
    Result ApiKeyGroupRecord :=
  let group := do
    let key ← tables.apiKeys.find? (·.1 = apiKeyId)
    tables.apiKeyGroups.find? (·.id = key.2)
  match group with
  | some group => .ok group
  | none => .error "api key group not found"

def fetchApiKeyGroupPolicyForModel (tables : PricingTables) (groupId : Uuid)
    (model : String) : Option ApiKeyGroupModelPolicyRecord :=
  tables.apiKeyGroupModelPolicies.find? fun item =>
    item.groupId = groupId ∧ item.modelId = model

def resolveApiKeyGroupPricing (tables : PricingTables) (apiKeyId : Uuid)
    (model : String) (base : BillingPricingResolved) :
    Result ApiKeyGroupResolvedPricing := do
  let group ← tables.fetchApiKeyGroupForApiKey apiKeyId
  ensureApiKeyGroupIsUsable group
  let policy := tables.fetchApiKeyGroupPolicyForModel group.id model
  if group.allowAllModels then
    if policy.any (!·.enabled) then
      .error "model is not allowed for api key group"
    else
      pure (applyApiKeyGroupModelPricing base group (policy.filter (·.enabled)))
  else
    match policy.filter (·.enabled) with
    | none => .error "model is not allowed for api key group"
    | some item => pure (applyApiKeyGroupModelPricing base group (some item))

/-- A price column of a catalog row, read as an integer that is not null. -/
def catalogPrice (column : String) (price : Option I64) : Result I64 :=
  match price with
  | some p => .ok p
  | none =>
    .error ("error occurred while decoding column \"" ++ column ++
      "\": unexpected null; try decoding as an `Option`")

def resolveBaseModelPricing (tables : PricingTables) (env : BillingEnv)
    (model : String) (serviceTier : Option String) : Result BillingPricingResolved :=
  if Text.trim model = "" then .error "model must not be empty"
  else
    let normalizedServiceTier := normalizeBillingServiceTier serviceTier
    let override? := (pricingOverrideLookupTiers normalizedServiceTier).findSome?
      fun lookupTier =>
        (tables.modelPricingOverrides.find? fun row =>
          row.model = model ∧ row.serviceTier = lookupTier ∧ row.enabled).map
        fun row => (lookupTier, row)
    match override? with
    | some (lookupTier, row) =>
      .ok
        { inputPriceMicrocredits := row.inputPriceMicrocredits
          cachedInputPriceMicrocredits :=
            normalizeCachedInputPriceMicrocredits row.inputPriceMicrocredits
              row.cachedInputPriceMicrocredits
          outputPriceMicrocredits := row.outputPriceMicrocredits
          source := "manual_override:" ++ lookupTier }
    | none =>
      match tables.openaiModelsCatalog.find? (·.modelId = model) with
      | some row => do
        let input ← catalogPrice "input_price_microcredits" row.inputPriceMicrocredits
        let cached ← catalogPrice "cached_input_price_microcredits"
          row.cachedInputPriceMicrocredits
        let output ← catalogPrice "output_price_microcredits"
          row.outputPriceMicrocredits
        pure
          { inputPriceMicrocredits := input
            cachedInputPriceMicrocredits := cached
            outputPriceMicrocredits := output
            source := "official_sync" }
      | none =>
        let fallback :=
          if env.billingPricingFallbackEnabled then
            match env.billingDefaultInputPriceMicrocredits,
              env.billingDefaultOutputPriceMicrocredits with
            | some input, some output => some (input, output)
            | _, _ => none
          else none
        match fallback with
        | some (input, output) =>
          let cachedInput := env.billingDefaultCachedInputPriceMicrocredits.getD
            (I64.ofInt (input.val.tdiv 10))
          .ok
            { inputPriceMicrocredits := input
              cachedInputPriceMicrocredits := max cachedInput 0
              outputPriceMicrocredits := output
              source := "default_fallback" }
        | none => .error "model pricing is not configured"

/-- The order of `billing_pricing_rules`: higher priority first, then the
higher threshold with missing ones last, then the older rule. -/
def ruleOrder (a b : BillingPricingRuleRecord) : Bool :=
  b.priority < a.priority || a.priority = b.priority &&
    match a.thresholdInputTokens, b.thresholdInputTokens with
    | some x, some y => y < x || x = y && a.createdAt ≤ b.createdAt
    | some _, none => true
    | none, some _ => false
    | none, none => a.createdAt ≤ b.createdAt

def listMatchingBillingPricingRules (tables : PricingTables) (model : String)
    (requestKind : BillingRequestKind) : List BillingPricingRuleRecord :=
  ((tables.billingPricingRules.filter (·.enabled)).insertionSort (ruleOrder · ·)).filter
    fun rule =>
      billingRuleMatchesModel rule.modelPattern model &&
        billingRuleMatchesRequestKind rule.requestKind requestKind

def resolveModelPricingForRequest (tables : PricingTables) (env : BillingEnv)
    (model : String) (context : BillingPricingRequestContext) :
    Result BillingPricingDecision := do
  let base ← tables.resolveBaseModelPricing env model context.serviceTier
  let rules := tables.listMatchingBillingPricingRules model context.requestKind
  let resolved := resolveEffectivePricingForBand base rules model context.requestKind
    context.persistedBand context.actualInputTokens context.phase
  match context.apiKeyId with
  | some apiKeyId =>
    let group ← tables.resolveApiKeyGroupPricing apiKeyId model resolved.pricing
    pure { resolved with pricing := group.finalPricing }
  | none => pure resolved

end PricingTables

def calculateChargedMicrocredits (inputTokens cachedInputTokens outputTokens : I64)
    (pricing : BillingPricingResolved) : I64 :=
  calculateEstimatedCostMicrousd inputTokens cachedInputTokens outputTokens
    { inputPriceMicrousd := pricing.inputPriceMicrocredits
      cachedInputPriceMicrousd := pricing.cachedInputPriceMicrocredits
      outputPriceMicrousd := pricing.outputPriceMicrocredits }

theorem calculateChargedMicrocredits_nonneg (i c o : I64)
    (pricing : BillingPricingResolved) :
    0 ≤ (calculateChargedMicrocredits i c o pricing).val :=
  calculateEstimatedCostMicrousd_nonneg i c o _

/-! ## Values kept in the metadata of an authorization -/

def authorizationMetaString (metaJson : Option Json) (key : String) : Option String :=
  Text.trimmed? (metaJson.bind fun value => value.getStr key)

def authorizationPricingBand (metaJson : Option Json) : Option BillingPricingBand :=
  (authorizationMetaString metaJson "pricing_band").map fun raw =>
    BillingPricingBand.fromOptional (some raw)

def authorizationRequestKind (metaJson : Option Json) : Option BillingRequestKind :=
  let requestKind :=
    BillingRequestKind.fromOptional (authorizationMetaString metaJson "request_kind")
  if requestKind = .unknown then none else some requestKind

def authorizationSessionKey (metaJson : Option Json) : Option String :=
  authorizationMetaString metaJson "session_key"

def authorizationServiceTier (metaJson : Option Json) : Option String :=
  (authorizationMetaString metaJson "service_tier").map fun raw =>
    normalizeBillingServiceTier (some raw)

end CodexPool
