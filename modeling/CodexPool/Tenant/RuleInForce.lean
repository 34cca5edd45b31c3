import CodexPool.Lib.Firsts
import CodexPool.Tenant.Pricing

/-!
# Pricing rules in force

Whether a request is priced by a rule is decided by any of the rules for its model, by which
rule it is priced always by the first of them. `applies_rule_in_force_iff` says when the rule
that is applied is one that is in force.
-/

namespace CodexPool

open Saturating

def matchingRules (rules : List BillingPricingRuleRecord) (model : String)
    (requestKind : BillingRequestKind) : List BillingPricingRuleRecord :=
  rules.filter fun rule =>
    billingRuleMatchesModel rule.modelPattern model &&
      billingRuleMatchesRequestKind rule.requestKind requestKind

/-- The first rule for a request whose threshold is reached and whose scope allows the phase. -/
def ruleInForce (rules : List BillingPricingRuleRecord) (model : String)
    (requestKind : BillingRequestKind) (actualInputTokens : Option I64)
    (phase : BillingResolutionPhase) : Option BillingPricingRuleRecord :=
  (matchingRules rules model requestKind).find? fun rule =>
    rule.reached (actualInputTokens.map (max · 0)) phase

def ruleDecision (base : BillingPricingResolved) :
    Option BillingPricingRuleRecord → BillingPricingDecision
  | some rule =>
    { pricing :=
        { inputPriceMicrocredits :=
            applyMultiplierPpm base.inputPriceMicrocredits rule.inputMultiplierPpm
          cachedInputPriceMicrocredits :=
            applyMultiplierPpm base.cachedInputPriceMicrocredits rule.cachedInputMultiplierPpm
          outputPriceMicrocredits :=
            applyMultiplierPpm base.outputPriceMicrocredits rule.outputMultiplierPpm
          source := base.source ++ "+rule:" ++ rule.id.text }
      band := .longContext
      matchedRuleId := some rule.id }
  | none => { pricing := base, band := .base, matchedRuleId := none }

section Rules

variable {base : BillingPricingResolved} {rules : List BillingPricingRuleRecord} {model : String}
  {requestKind : BillingRequestKind} {persistedBand : Option BillingPricingBand}
  {actualInputTokens : Option I64} {phase : BillingResolutionPhase}

theorem ruleInForce_isSome_iff :
    (ruleInForce rules model requestKind actualInputTokens phase).isSome = true ↔
      (matchingRules rules model requestKind).any
        (fun rule => rule.reached (actualInputTokens.map (max · 0)) phase) = true := by
  rw [ruleInForce, List.find?_isSome, List.any_eq_true]

theorem resolveEffectivePricingForBand_of_base (hband : persistedBand ≠ some .longContext) :
    resolveEffectivePricingForBand base rules model requestKind persistedBand actualInputTokens
        phase =
      resolveEffectivePricingForBand base rules model requestKind none actualInputTokens phase := by
  cases persistedBand with
  | none => rfl
  | some band =>
      cases band with
      | base => rfl
      | longContext => exact absurd rfl hband

/-- Without a persisted band, the first rule for the request is applied when any is in force. -/
theorem resolveEffectivePricingForBand_eq (hband : persistedBand ≠ some .longContext) :
    resolveEffectivePricingForBand base rules model requestKind persistedBand actualInputTokens
        phase =
      ruleDecision base
        (if (ruleInForce rules model requestKind actualInputTokens phase).isSome then
          (matchingRules rules model requestKind).head?
        else none) := by
  rw [resolveEffectivePricingForBand_of_base hband, if_congr ruleInForce_isSome_iff rfl rfl]
  unfold resolveEffectivePricingForBand
  rw [← matchingRules]
  dsimp only
  cases hany : (matchingRules rules model requestKind).any
      fun rule => rule.reached (actualInputTokens.map (max · 0)) phase with
  | false => rfl
  | true =>
      cases hrules : matchingRules rules model requestKind with
      | nil =>
          rw [hrules] at hany
          cases hany
      | cons rule rest => rfl

/-- Decisions tell the rules apart that they apply. -/
theorem ruleDecision_inj (hids : (rules.map (·.id)).Nodup)
    {a b : Option BillingPricingRuleRecord} (ha : ∀ rule, a = some rule → rule ∈ rules)
    (hb : ∀ rule, b = some rule → rule ∈ rules) (h : ruleDecision base a = ruleDecision base b) :
    a = b := by
  have hid : a.map (·.id) = b.map (·.id) := by
    have hmatched (o : Option BillingPricingRuleRecord) :
        (ruleDecision base o).matchedRuleId = o.map (·.id) := by
      cases o <;> rfl
    rw [← hmatched, ← hmatched, h]
  cases a with
  | none => exact (Option.map_eq_none_iff.1 hid.symm).symm
  | some rule =>
      rcases Option.map_eq_some_iff.1 hid.symm with ⟨rule', rfl, heq⟩
      exact congrArg some (List.inj_on_of_nodup_map hids (ha rule rfl) (hb rule' rfl) heq.symm)

def FirstInForce (rules : List BillingPricingRuleRecord) (model : String)
    (requestKind : BillingRequestKind) (actualInputTokens : Option I64)
    (phase : BillingResolutionPhase) : Prop :=
  (∃ rule ∈ matchingRules rules model requestKind,
    rule.reached (actualInputTokens.map (max · 0)) phase = true) →
  ∀ first, (matchingRules rules model requestKind).head? = some first →
    first.reached (actualInputTokens.map (max · 0)) phase = true

theorem applied_eq_ruleInForce_iff :
    (if (ruleInForce rules model requestKind actualInputTokens phase).isSome then
        (matchingRules rules model requestKind).head?
      else none) = ruleInForce rules model requestKind actualInputTokens phase ↔
      FirstInForce rules model requestKind actualInputTokens phase :=
  Firsts.head?_eq_find?_iff _ _

/-- The rules of the database have different ids. What is applied is the first rule for the
request that is in force, or the base price where there is none, if and only if the first rule
for the request is in force when any is. -/
theorem applies_rule_in_force_iff (hids : (rules.map (·.id)).Nodup)
    (hband : persistedBand ≠ some .longContext) :
    resolveEffectivePricingForBand base rules model requestKind persistedBand actualInputTokens
        phase =
      ruleDecision base (ruleInForce rules model requestKind actualInputTokens phase) ↔
    FirstInForce rules model requestKind actualInputTokens phase := by
  rw [resolveEffectivePricingForBand_eq hband, ← applied_eq_ruleInForce_iff]
  have hmatching (rule : BillingPricingRuleRecord)
      (h : rule ∈ matchingRules rules model requestKind) : rule ∈ rules := (List.mem_filter.1 h).1
  constructor
  · intro h
    apply ruleDecision_inj hids _ _ h
    · intro rule happlied
      rw [Option.ite_none_right_eq_some] at happlied
      exact hmatching rule (List.mem_of_head? happlied.2)
    · exact fun rule hrule => hmatching rule (List.mem_of_find?_eq_some hrule)
  · intro h
    rw [h]

end Rules

/-- A rule for very long inputs stands before one for all inputs. -/
def sampleRules : List BillingPricingRuleRecord :=
  let rule : BillingPricingRuleRecord :=
    { id := ⟨"long"⟩
      modelPattern := "gpt-5.4"
      requestKind := "any"
      scope := "request"
      thresholdInputTokens := some 272000
      inputMultiplierPpm := 2000000
      cachedInputMultiplierPpm := 1000000
      outputMultiplierPpm := 1500000
      priority := 100
      enabled := true
      createdAt := 0 }
  [rule, { rule with id := ⟨"all"⟩, thresholdInputTokens := none, inputMultiplierPpm := 900000 }]

def samplePrices : BillingPricingResolved := ⟨2500000, 250000, 15000000, "official_sync"⟩

theorem applies_rule_in_force_long :
    resolveEffectivePricingForBand samplePrices sampleRules "gpt-5.4" .response none
        (some 300000) .capture =
      ruleDecision samplePrices
        (ruleInForce sampleRules "gpt-5.4" .response (some 300000) .capture) :=
  (applies_rule_in_force_iff (by decide) (by decide)).2 fun _ _ hfirst => by
    cases Option.some.inj hfirst
    decide +kernel

/-- A short request is priced by the rule for very long inputs. -/
theorem short_request_priced_as_long :
    resolveEffectivePricingForBand samplePrices sampleRules "gpt-5.4" .response none
        (some 1000) .capture ≠
      ruleDecision samplePrices
        (ruleInForce sampleRules "gpt-5.4" .response (some 1000) .capture) := by
  intro h
  have hid := congrArg BillingPricingDecision.matchedRuleId h
  revert hid
  decide +kernel

end CodexPool
