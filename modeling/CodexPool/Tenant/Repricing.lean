import CodexPool.Tenant.HoldRows
import CodexPool.Tenant.Reconcile

/-!
# Repricing a captured request

A fact of the request log is priced like a capture, from the metadata that the capture wrote.
The metadata give back the band, the kind and the tier of the capture, so that the prices are
those of the capture as far as the API key is the same. The usage is not: the fact has neither
the cached nor the reasoning tokens of the request.

`fetchAuthorization` finds no hold at all. `foundAuthorization` is a reader that finds them, with
which a fact is reconciled here.
-/

namespace CodexPool

open Saturating

/-! ## The reconciliation of a fact -/

/-- A reader that finds the stored holds. -/
def foundAuthorization (tenantId : Uuid) (requestId : String) (db : Db) :
    Result (Option BillingAuthorizationRecord) :=
  .ok ((db.findAuthorization tenantId requestId).map AuthorizationRow.record)

/-! ## Prices -/

/-- A request that is priced again in the band it was priced in is priced alike. -/
theorem resolveEffectivePricingForBand_band (base : BillingPricingResolved)
    (rules : List BillingPricingRuleRecord) (model : String) (requestKind : BillingRequestKind)
    (persistedBand : Option BillingPricingBand) (actualInputTokens : Option I64)
    (phase : BillingResolutionPhase) :
    resolveEffectivePricingForBand base rules model requestKind
        (some (resolveEffectivePricingForBand base rules model requestKind persistedBand
          actualInputTokens phase).band) actualInputTokens phase =
      resolveEffectivePricingForBand base rules model requestKind persistedBand
        actualInputTokens phase := by
  let reached : Bool := (rules.filter fun rule =>
    billingRuleMatchesModel rule.modelPattern model &&
      billingRuleMatchesRequestKind rule.requestKind requestKind).any fun rule =>
    rule.reached (actualInputTokens.map (max · 0)) phase
  by_cases hlong : persistedBand = some .longContext
  · rw [hlong]
    rfl
  · have hband : (resolveEffectivePricingForBand base rules model requestKind persistedBand
        actualInputTokens phase).band = if reached then .longContext else .base := by
      rcases persistedBand with _ | _ | _
      · rfl
      · rfl
      · exact absurd rfl hlong
    rw [hband]
    by_cases hreached : reached = true
    · rw [if_pos hreached]
      simp only [reached] at hreached
      rcases persistedBand with _ | _ | _
      · simp [resolveEffectivePricingForBand, hreached]
      · simp [resolveEffectivePricingForBand, hreached]
      · exact absurd rfl hlong
    · rw [if_neg hreached]
      rcases persistedBand with _ | _ | _
      · rfl
      · rfl
      · exact absurd rfl hlong

/-- The band of a decision does not depend on the API key, and with it the request is priced
alike for every key. -/
theorem resolveModelPricingForRequest_band {tables : PricingTables} {env : BillingEnv}
    {model : String} {context : BillingPricingRequestContext}
    {decision : BillingPricingDecision}
    (h : tables.resolveModelPricingForRequest env model context = .ok decision)
    (apiKeyId : Option Uuid) :
    tables.resolveModelPricingForRequest env model
        { context with apiKeyId, persistedBand := some decision.band } =
      tables.resolveModelPricingForRequest env model { context with apiKeyId } := by
  rw [PricingTables.resolveModelPricingForRequest, Result.bind_eq_ok] at h
  rcases h with ⟨base, hbase, h⟩
  have hband : decision.band = (resolveEffectivePricingForBand base
      (tables.listMatchingBillingPricingRules model context.requestKind) model
      context.requestKind context.persistedBand context.actualInputTokens context.phase).band := by
    dsimp only at h
    cases hkey : context.apiKeyId with
    | none =>
        rw [hkey] at h
        rw [← Except.ok.inj h]
    | some key =>
        rw [hkey] at h
        rcases Result.bind_eq_ok.1 h with ⟨group, -, h⟩
        rw [← Except.ok.inj h]
  rw [hband]
  simp only [PricingTables.resolveModelPricingForRequest, hbase, bind, Except.bind,
    resolveEffectivePricingForBand_band]

/-! ## What the metadata of a capture give back -/

theorem normalizeBillingServiceTier_cases (raw : Option String) :
    normalizeBillingServiceTier raw = "priority" ∨ normalizeBillingServiceTier raw = "flex" ∨
      normalizeBillingServiceTier raw = "default" := by
  unfold normalizeBillingServiceTier
  split <;> simp

theorem normalizeBillingServiceTier_idem (raw : Option String) :
    normalizeBillingServiceTier (some (normalizeBillingServiceTier raw)) =
      normalizeBillingServiceTier raw := by
  rcases normalizeBillingServiceTier_cases raw with heq | heq | heq <;> rw [heq] <;> decide

section Metadata

variable {metaJson : Json}

theorem authorizationRequestKind_of_getStr {requestKind : BillingRequestKind}
    (h : metaJson.getStr "request_kind" = some requestKind.asStr) :
    (authorizationRequestKind (some metaJson)).getD .unknown = requestKind := by
  rw [authorizationRequestKind, authorizationMetaString, Option.bind_some, h]
  cases requestKind <;> decide

theorem authorizationPricingBand_of_getStr {band : BillingPricingBand}
    (h : metaJson.getStr "pricing_band" = some band.asStr) :
    authorizationPricingBand (some metaJson) = some band := by
  rw [authorizationPricingBand, authorizationMetaString, Option.bind_some, h]
  cases band <;> decide

theorem authorizationServiceTier_of_getStr {raw : Option String}
    (h : metaJson.getStr "service_tier" = some (normalizeBillingServiceTier raw)) :
    authorizationServiceTier (some metaJson) = some (normalizeBillingServiceTier raw) := by
  rw [authorizationServiceTier, authorizationMetaString, Option.bind_some, h]
  rcases normalizeBillingServiceTier_cases raw with heq | heq | heq <;> rw [heq] <;> decide

end Metadata

/-- The row of a hold after its capture. -/
def capturedRow (call : BillingCall) (req : BillingCaptureRequest) (row : AuthorizationRow)
    (decision : BillingPricingDecision) : AuthorizationRow :=
  AuthorizationRow.capture (req.apiKeyId.or row.apiKeyId)
    (row.model.getD (Text.trim req.model)) (req.usage.charged decision.pricing)
    (captureMeta call req row.record decision) call.now row

section Captured

variable {call : BillingCall} {req : BillingCaptureRequest} {row a : AuthorizationRow}
  {decision : BillingPricingDecision}

theorem getStr_captureMeta (call : BillingCall) (req : BillingCaptureRequest)
    (decision : BillingPricingDecision) (hobject : row.metaJson.isObject = true) :
    (capturedRow call req row decision).metaJson.getStr "request_kind" =
        some (req.effectiveRequestKind row.record).asStr ∧
      (capturedRow call req row decision).metaJson.getStr "service_tier" =
        some (req.effectiveServiceTier row.record) ∧
      (capturedRow call req row decision).metaJson.getStr "pricing_band" =
        some decision.band.asStr := by
  cases hmeta : row.metaJson with
  | obj fs =>
      have hget (key : String) : (capturedRow call req row decision).metaJson.get key =
          ((captureMeta call req row.record decision).get key).or ((Json.obj fs).get key) := by
        rw [capturedRow, AuthorizationRow.capture, hmeta]
        exact Json.get_merge fs _ key
      simp only [Json.getStr, hget, captureMeta, Json.get_ofFields]
      exact ⟨rfl, rfl, rfl⟩
  | _ =>
      rw [hmeta] at hobject
      cases hobject

theorem billingCapture_names {db db' : Db} {r : BillingCaptureResponse}
    (h : billingCapture call req db = (.ok r, db')) :
    Text.trim req.requestId ≠ "" ∧ Text.trim req.model ≠ "" := by
  unfold billingCapture at h
  simp only at h
  split at h
  · cases (Prod.mk.inj h).1
  split at h
  · cases (Prod.mk.inj h).1
  rename_i hid hmodel
  exact ⟨hid, hmodel⟩

def captureContext (req : BillingCaptureRequest) (authorization : BillingAuthorizationRecord)
    (session : Option String) : BillingPricingRequestContext where
  serviceTier := some (req.effectiveServiceTier authorization)
  apiKeyId := req.apiKeyId
  requestKind := req.effectiveRequestKind authorization
  persistedBand :=
    (session.map fun band => BillingPricingBand.fromOptional (some band)).or
      (authorizationPricingBand authorization.metaJson)
  actualInputTokens := some req.usage.inputTokens
  phase := .capture

theorem captureContext_apiKeyId (authorization : BillingAuthorizationRecord)
    (session : Option String) (apiKeyId : Option Uuid) :
    captureContext { req with apiKeyId } authorization session =
      { captureContext req authorization session with apiKeyId } := by
  rw [captureContext, captureContext, BillingCaptureRequest.effectiveServiceTier,
    BillingCaptureRequest.effectiveServiceTier, BillingCaptureRequest.effectiveRequestKind,
    BillingCaptureRequest.effectiveRequestKind, BillingCaptureRequest.usage,
    BillingCaptureRequest.usage]

theorem pricing_eq_captureContext (model : String) (authorization : BillingAuthorizationRecord)
    (session : Option String) :
    req.pricing call model authorization session =
      call.tables.resolveModelPricingForRequest call.env model
        (captureContext req authorization session) := by
  rw [BillingCaptureRequest.pricing, captureContext]

theorem capturedRow_apiKeyId :
    (capturedRow call req row decision).apiKeyId = row.apiKeyId.or req.apiKeyId := by
  change row.apiKeyId.or (req.apiKeyId.or row.apiKeyId) = _
  cases row.apiKeyId with
  | none => rw [Option.none_or, Option.none_or, Option.or_none]
  | some key => rfl

/-- A captured hold is priced as its capture was, under its own API key, if the tables and the
input tokens are the same. -/
theorem adjustPricing_of_sameCapture {model : String} {session : Option String}
    (hobject : row.metaJson.isObject = true)
    (hpricing : req.pricing call model row.record session = .ok decision)
    (hsame : SameCapture (capturedRow call req row decision) a) {call' : BillingCall}
    (htables : call'.tables = call.tables) (henv : call'.env = call.env)
    {usage : BillableUsage} (husage : usage.inputTokens = req.usage.inputTokens) :
    adjustPricing call' model usage
        (req.serviceTier.or (authorizationServiceTier (some a.metaJson))) a.record =
      BillingCaptureRequest.pricing { req with apiKeyId := row.apiKeyId.or req.apiKeyId } call
        model row.record session := by
  rcases getStr_captureMeta call req decision hobject with
    ⟨hkind, htier, hband⟩
  have hkind' := (hsame.priced "request_kind" (by decide)).trans hkind
  have htier' := (hsame.priced "service_tier" (by decide)).trans htier
  have hband' := (hsame.priced "pricing_band" (by decide)).trans hband
  have hservice : normalizeBillingServiceTier ((req.serviceTier.or
      (authorizationServiceTier (some a.metaJson))).or
        (authorizationServiceTier a.record.metaJson)) = req.effectiveServiceTier row.record := by
    rw [AuthorizationRow.record, authorizationServiceTier_of_getStr htier',
      BillingCaptureRequest.effectiveServiceTier]
    cases req.serviceTier with
    | none => exact normalizeBillingServiceTier_idem _
    | some tier => rfl
  have hkey : a.apiKeyId = row.apiKeyId.or req.apiKeyId :=
    hsame.apiKeyId.trans capturedRow_apiKeyId
  rw [pricing_eq_captureContext] at hpricing
  have hstable := resolveModelPricingForRequest_band hpricing (row.apiKeyId.or req.apiKeyId)
  rw [adjustPricing, hservice, htables, henv, husage]
  change call.tables.resolveModelPricingForRequest call.env model
    { serviceTier := some (req.effectiveServiceTier row.record), apiKeyId := a.apiKeyId
      requestKind := (authorizationRequestKind (some a.metaJson)).getD .unknown
      persistedBand := authorizationPricingBand (some a.metaJson)
      actualInputTokens := some req.usage.inputTokens, phase := .capture } = _
  rw [authorizationRequestKind_of_getStr hkind', authorizationPricingBand_of_getStr hband', hkey]
  rw [pricing_eq_captureContext, captureContext_apiKeyId, ← hstable, captureContext]

end Captured

/-! ## Charges -/

namespace BillableUsage

/-- The charge of a usage, part by part. -/
def detailedCharge (usage : BillableUsage) (pricing : BillingPricingResolved) : I64 :=
  ((chargeTokensByPerMillionPrice usage.billableInputTokens pricing.inputPriceMicrocredits).satAdd
    (chargeTokensByPerMillionPrice usage.cachedInputTokens
      pricing.cachedInputPriceMicrocredits)).satAdd
    (chargeTokensByPerMillionPrice usage.billableOutputTokens pricing.outputPriceMicrocredits)

def plainCharge (usage : BillableUsage) (pricing : BillingPricingResolved) : I64 :=
  (chargeTokensByPerMillionPrice usage.inputTokens pricing.inputPriceMicrocredits).satAdd
    (chargeTokensByPerMillionPrice usage.outputTokens pricing.outputPriceMicrocredits)

variable (i c o r : I64) (pricing : BillingPricingResolved)

theorem charged_ofTokens :
    (ofTokens i c o r).charged pricing = (ofTokens i c o r).detailedCharge pricing := by
  have hinput : max (max i 0) 0 = max i 0 := max_eq_left (le_max_right i 0)
  have hcached : min (max (min (max c 0) (max i 0)) 0) (max i 0) = min (max c 0) (max i 0) := by
    rw [max_eq_left (le_min (le_max_right c 0) (le_max_right i 0)),
      min_eq_left (min_le_right _ _)]
  have houtput : max (max (max o 0) (max r 0)) 0 = max (max o 0) (max r 0) :=
    max_eq_left ((le_max_right o 0).trans (le_max_left _ _))
  simp only [charged, calculateChargedMicrocredits, calculateEstimatedCostMicrousd, ofTokens,
    detailedCharge, hinput, hcached, houtput]

theorem chargeTokens_zero (price : I64) : chargeTokensByPerMillionPrice 0 price = 0 := by
  rw [chargeTokensByPerMillionPrice]
  exact if_pos (.inl (by decide))

theorem satSub_zero (x : I64) : x.satSub 0 = x := by
  apply Bounded.ext
  rw [Bounded.val_satSub, I64.val_zero, sub_zero, clamp_of_mem x.lo_le x.le_hi]

theorem satAdd_zero (x : I64) : x.satAdd 0 = x := by
  apply Bounded.ext
  rw [Bounded.val_satAdd, I64.val_zero, add_zero, clamp_of_mem x.lo_le x.le_hi]

theorem charged_ofTokens_plain :
    (ofTokens (max i 0) 0 (max o 0) 0).charged pricing =
      (ofTokens i c o r).plainCharge pricing := by
  have hinput : max (max i 0) 0 = max i 0 := max_eq_left (le_max_right i 0)
  have hcached : min (max (0 : I64) 0) (max i 0) = 0 := by
    rw [max_self, min_eq_left (le_max_right i 0)]
  have houtput : max (max (max o 0) 0) (max (0 : I64) 0) = max o 0 := by
    rw [max_self, max_eq_left (le_max_right o 0), max_eq_left (le_max_right o 0)]
  rw [charged_ofTokens]
  simp only [ofTokens, detailedCharge, plainCharge, hinput, hcached, houtput, satSub_zero,
    chargeTokens_zero, satAdd_zero]

theorem detailedCharge_eq_plainCharge (hcached : c ≤ 0) (hreasoning : r ≤ max o 0) :
    (ofTokens i c o r).detailedCharge pricing = (ofTokens i c o r).plainCharge pricing := by
  have hzero : min (max c 0) (max i 0) = 0 := by
    rw [max_eq_right hcached, min_eq_left (le_max_right i 0)]
  have houtput : max (max o 0) (max r 0) = max o 0 :=
    max_eq_left (max_le hreasoning (le_max_right o 0))
  simp only [ofTokens, detailedCharge, plainCharge, hzero, houtput, satSub_zero,
    chargeTokens_zero, satAdd_zero]

end BillableUsage

/-! ## Facts about a captured request -/

/-- The amount at which the reconciliation of a fact prices its hold. -/
def factCharge (call : BillingCall) (req : BillingReconcileFactRequest)
    (row : AuthorizationRow) : Result I64 :=
  expectedCharge call
    (((Text.trimmed? req.model).or (Text.trimmed? row.model)).getD "")
    (.ofTokens ((req.inputTokens.map (max · 0)).getD 0)
      ((req.cachedInputTokens.map (max · 0)).getD 0)
      ((req.outputTokens.map (max · 0)).getD 0)
      ((req.reasoningTokens.map (max · 0)).getD 0))
    (req.serviceTier.or (authorizationServiceTier (some row.metaJson))) row

/-- The fact carries the usage of the captured request, as far as it can. -/
structure FactOf (req : BillingCaptureRequest) (fact : BillingReconcileFactRequest) : Prop where
  tenantId : fact.tenantId = req.tenantId
  requestId : Text.trim fact.requestId = Text.trim req.requestId
  model : fact.model = some req.model
  serviceTier : fact.serviceTier = req.serviceTier
  inputTokens : fact.inputTokens = some req.inputTokens
  cachedInputTokens : fact.cachedInputTokens = none
  outputTokens : fact.outputTokens = some req.outputTokens
  reasoningTokens : fact.reasoningTokens = none

theorem FactOf.model_eq {req : BillingCaptureRequest} {fact : BillingReconcileFactRequest}
    (h : FactOf req fact) (hmodel : Text.trim req.model ≠ "") (other : Option String) :
    (Text.trimmed? fact.model).or other = some (Text.trim req.model) := by
  rw [h.model, Text.trimmed?, Option.map_some, Option.filter_some, if_pos (by simpa)]
  rfl

section Facts

variable {call : BillingCall} {req : BillingCaptureRequest} {row a : AuthorizationRow}
  {decision : BillingPricingDecision} {session : Option String}

def factPricing (call : BillingCall) (req : BillingCaptureRequest) (row : AuthorizationRow)
    (session : Option String) : Result BillingPricingDecision :=
  BillingCaptureRequest.pricing { req with apiKeyId := row.apiKeyId.or req.apiKeyId } call
    (Text.trim req.model) row.record session

theorem factCharge_of_sameCapture (hmodel : Text.trim req.model ≠ "")
    (hobject : row.metaJson.isObject = true)
    (hpricing : req.pricing call (Text.trim req.model) row.record session = .ok decision)
    (hsame : SameCapture (capturedRow call req row decision) a) {call' : BillingCall}
    (htables : call'.tables = call.tables) (henv : call'.env = call.env)
    {fact : BillingReconcileFactRequest} (hfact : FactOf req fact) :
    factCharge call' fact a =
      (factPricing call req row session).map fun priced =>
        req.usage.plainCharge priced.pricing := by
  have hmodel' : ((Text.trimmed? fact.model).or (Text.trimmed? a.model)).getD "" =
      Text.trim req.model := by
    rw [hfact.model_eq hmodel]
    rfl
  let usage : BillableUsage :=
    .ofTokens (max req.inputTokens 0) 0 (max req.outputTokens 0) 0
  have hpriced : adjustPricing call' (Text.trim req.model) usage
      (req.serviceTier.or (authorizationServiceTier (some a.metaJson))) a.record =
        factPricing call req row session :=
    adjustPricing_of_sameCapture hobject hpricing hsame htables henv
      (max_eq_left (le_max_right req.inputTokens 0))
  have hcharge : factCharge call' fact a = expectedCharge call' (Text.trim req.model) usage
      (req.serviceTier.or (authorizationServiceTier (some a.metaJson))) a := by
    rw [factCharge, hmodel', hfact.inputTokens, hfact.cachedInputTokens, hfact.outputTokens,
      hfact.reasoningTokens, hfact.serviceTier]
    rfl
  have hplain (priced : BillingPricingDecision) :
      usage.charged priced.pricing = req.usage.plainCharge priced.pricing := by
    rw [BillingCaptureRequest.usage]
    exact BillableUsage.charged_ofTokens_plain _ _ _ _ _
  rw [hcharge, expectedCharge, hpriced]
  simp only [hplain]

end Facts

/-! ## What the reconciliation of a fact does to the holds -/

/-- An adjustment to the captured amount does nothing. -/
theorem reconcileAdjustCapturedAmount_of_eq {call : BillingCall} {t : Uuid} {rid model : String}
    {i c o re : I64} {apiKeyId : Option Uuid} {tier : Option String} {db : Db}
    {row : AuthorizationRow} (hfind : db.findAuthorization t rid = some row)
    (h : expectedCharge call model (.ofTokens i c o re) tier row = .ok row.capturedMicrocredits) :
    reconcileAdjustCapturedAmount call t rid model i c o re apiKeyId tier db =
      (.ok false, db) := by
  rcases Except.map_eq_ok h with ⟨decision, hdecision, hcharge⟩
  rw [reconcileAdjustCapturedAmount, TxM.transaction_eq_ok]
  refine ⟨⟨db, false⟩, ?_, rfl⟩
  rw [reconcileAdjustTx, fetchAuthorizationForUpdate_bind_eq_ok, hfind]
  refine ⟨rfl, TxM.ofResult_bind_eq_ok.2 ⟨decision, hdecision, ?_⟩⟩
  have heq : row.record.capturedMicrocredits =
      (BillableUsage.ofTokens i c o re).charged decision.pricing := hcharge.symm
  rw [if_pos heq]
  rfl

/-- An adjustment rewrites the row that it finds, if any. -/
theorem reconcileAdjustCapturedAmount_authorizations {call : BillingCall} {t : Uuid}
    {rid model : String} {i c o re : I64} {apiKeyId : Option Uuid} {tier : Option String}
    {db db' : Db} {r : Result Bool}
    (h : reconcileAdjustCapturedAmount call t rid model i c o re apiKeyId tier db = (r, db')) :
    db'.authorizations = db.authorizations ∨
      ∃ row, db.findAuthorization t rid = some row ∧ ∃ amount fields,
        db'.authorizations = Table.updateKey AuthorizationRow.id row.id
          (AuthorizationRow.adjust amount fields call.now) db.authorizations := by
  rcases r with e | adjusted
  · rw [TxM.transaction_error h]
    exact .inl rfl
  · rcases TxM.transaction_eq_ok.1 h with ⟨tx, hx, rfl⟩
    unfold reconcileAdjustTx at hx
    replace hx := (fetchAuthorizationForUpdate_bind_eq_ok.1 hx).2
    cases hfind : db.findAuthorization t rid with
    | none =>
        rw [hfind] at hx
        rcases Prod.mk.inj (TxM.pure_eq_ok.1 hx) with ⟨-, rfl⟩
        exact .inl rfl
    | some row =>
        rw [hfind] at hx
        simp only [Option.map_some] at hx
        rcases TxM.ofResult_bind_eq_ok.1 hx with ⟨decision, -, hx⟩
        split at hx
        · rcases Prod.mk.inj (TxM.pure_eq_ok.1 hx) with ⟨-, rfl⟩
          exact .inl rfl
        · right
          split at hx
          · rcases applyCreditDeltaInner_bind_eq_ok hx with ⟨-, -, hx | ⟨b, db₁, hreq, -⟩⟩
            · rcases TxM.execute_bind_eq_ok.1 hx with ⟨-, db₂, hup, hx⟩
              rcases Prod.mk.inj (TxM.pure_eq_ok.1 hx) with ⟨-, rfl⟩
              obtain rfl := Option.some.inj hup
              exact ⟨row, rfl, _, _, rfl⟩
            · cases hreq
          · rcases TxM.execute_bind_eq_ok.1 hx with ⟨-, db₂, hup, hx⟩
            rcases Prod.mk.inj (TxM.pure_eq_ok.1 hx) with ⟨-, rfl⟩
            obtain rfl := Option.some.inj hup
            exact ⟨row, rfl, _, _, rfl⟩

section Close

variable (fetch : Uuid → String → Db → Result (Option BillingAuthorizationRecord))
  (call : BillingCall) (req : BillingReconcileFactRequest) (requestId : String)
  (stats : BillingReconcileStats) (db : Db)

theorem reconcileFactCloseWith_stats :
    (reconcileFactCloseWith fetch call req requestId stats db).2 =
      (reconcileFactCloseWith fetch call req requestId {} db).2 := by
  unfold reconcileFactCloseWith
  rcases fetch req.tenantId requestId db with e | _ | latest
  · rfl
  · rfl
  · dsimp only
    split
    · rcases billingRelease call (req.releaseRequest requestId) db with ⟨e | r, db'⟩ <;> rfl
    · rfl

theorem reconcileFactCloseWith_rowChanges :
    RowChanges db.authorizations
      (reconcileFactCloseWith fetch call req requestId stats db).2.authorizations := by
  unfold reconcileFactCloseWith
  rcases fetch req.tenantId requestId db with e | _ | latest
  · exact .refl
  · exact .refl
  · dsimp only
    split
    · have hrelease := billingRelease_rowChanges call (req.releaseRequest requestId) db
      rcases hr : billingRelease call (req.releaseRequest requestId) db with ⟨e | r, db'⟩ <;>
      · rw [hr] at hrelease
        exact hrelease
    · exact .refl

end Close

/-- The reconciliation of a fact adjusts the row of its request or captures it, and closes
it. -/
theorem reconcileFactWith_rows (call : BillingCall) (req : BillingReconcileFactRequest) (db : Db) :
    ∃ rows, RowChanges rows (reconcileFactWith foundAuthorization call req db).2.authorizations ∧
      (RowChanges db.authorizations rows ∨
        ∃ row, db.findAuthorization req.tenantId (Text.trim req.requestId) = some row ∧
          ∃ amount fields, rows = Table.updateKey AuthorizationRow.id row.id
            (AuthorizationRow.adjust amount fields call.now) db.authorizations) := by
  unfold reconcileFactWith
  dsimp only
  split
  · exact ⟨_, .refl, .inl .refl⟩
  · rw [foundAuthorization]
    rcases hfind : db.findAuthorization req.tenantId (Text.trim req.requestId) with _ | row
    · exact ⟨_, .refl, .inl .refl⟩
    · dsimp only [Option.map_some]
      rcases (Text.trimmed? req.model).or (Text.trimmed? row.record.model) with _ | model
      · exact ⟨_, reconcileFactCloseWith_rowChanges _ _ _ _ _ _, .inl .refl⟩
      rcases req.inputTokens with _ | inputTokens
      · exact ⟨_, reconcileFactCloseWith_rowChanges _ _ _ _ _ _, .inl .refl⟩
      rcases req.outputTokens with _ | outputTokens
      · exact ⟨_, reconcileFactCloseWith_rowChanges _ _ _ _ _ _, .inl .refl⟩
      dsimp only [Option.map_some]
      split
      · generalize hcapture : BillingCaptureRequest.mk _ _ _ _ _ _ _ _ _ _ _ _ = capture
        have hrows := billingCapture_rowChanges call capture db
        rcases hr : billingCapture call capture db with ⟨e | r, db'⟩
        all_goals rw [hr] at hrows
        · exact ⟨_, .refl, .inl hrows⟩
        · exact ⟨_, reconcileFactCloseWith_rowChanges _ _ _ _ _ _, .inl hrows⟩
      · generalize hadjust : reconcileAdjustCapturedAmount _ _ _ _ _ _ _ _ _ _ _ = adjusted
        rcases adjusted with ⟨r, db'⟩
        have hrows := reconcileAdjustCapturedAmount_authorizations hadjust
        rw [hfind] at hrows
        have hsame (h : db'.authorizations = db.authorizations) :
            RowChanges db.authorizations db'.authorizations := by rw [h]
        rcases r with e | adjusted
        · exact ⟨_, .refl, hrows.imp_left hsame⟩
        · exact ⟨_, reconcileFactCloseWith_rowChanges _ _ _ _ _ _, hrows.imp_left hsame⟩

theorem reconcileFactWith_sound (call : BillingCall) (req : BillingReconcileFactRequest) {db : Db}
    (hsound : RowsSound db.authorizations) :
    RowsSound (reconcileFactWith foundAuthorization call req db).2.authorizations := by
  rcases reconcileFactWith_rows call req db with ⟨rows, hclose, hrows | ⟨row, -, amount, fields,
    rfl⟩⟩
  · exact (hsound.rowChanges hrows).rowChanges hclose
  · apply RowsSound.rowChanges _ hclose
    exact hsound.updateKey (fun _ => rfl) (fun _ => ⟨rfl, rfl⟩)
      fun a ha => Json.isObject_merge ha fields

theorem reconcileFactWith_kept {call : BillingCall} {req : BillingReconcileFactRequest} {db : Db}
    {c : AuthorizationRow} (hsound : RowsSound db.authorizations)
    (hkept : Kept c db.authorizations)
    (hother : ¬(req.tenantId = c.tenantId ∧ Text.trim req.requestId = c.requestId)) :
    Kept c (reconcileFactWith foundAuthorization call req db).2.authorizations := by
  rcases reconcileFactWith_rows call req db with ⟨rows, hclose, hrows | ⟨row, hfind, amount, fields,
    rfl⟩⟩
  · exact (hkept.rowChanges hsound hrows).rowChanges (hsound.rowChanges hrows) hclose
  · have hadjusted : RowsSound (Table.updateKey AuthorizationRow.id row.id
        (AuthorizationRow.adjust amount fields call.now) db.authorizations) :=
      hsound.updateKey (fun _ => rfl) (fun _ => ⟨rfl, rfl⟩)
        fun a ha => Json.isObject_merge ha fields
    refine (Kept.updateKey_of_ne hkept ?_).rowChanges hadjusted hclose
    rcases Db.findAuthorization_eq_some hfind with ⟨hrow, htenant, hrequest⟩
    rcases hkept with ⟨a, ha, hsame⟩
    intro hid
    obtain rfl := hsound.eq_of_id ha hrow (hsame.id.trans hid)
    exact hother ⟨htenant.symm.trans hsame.tenantId, hrequest.symm.trans hsame.requestId⟩

/-! ## Settled requests -/

/-- What a fact should do for a request that was captured: it is priced at the captured
amount, so that the tables are only changed by closing the hold, and not at all if the hold
was closed before. -/
structure FactSettles (call : BillingCall) (req : BillingReconcileFactRequest) (captured : I64)
    (db : Db) : Prop where
  priced : ∃ row, db.findAuthorization req.tenantId (Text.trim req.requestId) = some row ∧
    row.capturedMicrocredits = captured ∧ factCharge call req row = .ok captured
  closes : (reconcileFactWith foundAuthorization call req db).2 =
    (reconcileFactCloseWith foundAuthorization call req (Text.trim req.requestId) {} db).2
  unchanged : ∀ row, db.findAuthorization req.tenantId (Text.trim req.requestId) = some row →
    row.status = .released → (reconcileFactWith foundAuthorization call req db).2 = db

/-- A fact that is priced at the captured amount changes the tables only by closing the
hold. -/
theorem factSettles_of_priced {call : BillingCall} {req : BillingReconcileFactRequest}
    {captured : I64} {db : Db} {row : AuthorizationRow}
    (hfind : db.findAuthorization req.tenantId (Text.trim req.requestId) = some row)
    (hstatus : row.status ≠ .authorized) (hcaptured : row.capturedMicrocredits = captured)
    (hcharge : factCharge call req row = .ok captured) {model : String} {i o : I64}
    (hid : Text.trim req.requestId ≠ "")
    (hmodel : (Text.trimmed? req.model).or (Text.trimmed? row.model) = some model)
    (hinput : req.inputTokens = some i) (houtput : req.outputTokens = some o) :
    FactSettles call req captured db := by
  have hcloses : (reconcileFactWith foundAuthorization call req db).2 =
      (reconcileFactCloseWith foundAuthorization call req (Text.trim req.requestId) {} db).2 := by
    have hadjust : reconcileAdjustCapturedAmount call req.tenantId (Text.trim req.requestId) model
        (max i 0) ((req.cachedInputTokens.map (max · 0)).getD 0) (max o 0)
        ((req.reasoningTokens.map (max · 0)).getD 0) req.apiKeyId
        (req.serviceTier.or (authorizationServiceTier (some row.metaJson))) db =
          (.ok false, db) := by
      apply reconcileAdjustCapturedAmount_of_eq hfind
      rw [factCharge, hmodel, hinput, houtput] at hcharge
      rw [hcaptured]
      exact hcharge
    have hmodel' : (Text.trimmed? req.model).or (Text.trimmed? row.record.model) = some model :=
      hmodel
    have hstatus' : row.record.status ≠ .authorized := hstatus
    rw [reconcileFactWith]
    dsimp only
    rw [if_neg hid, foundAuthorization, hfind]
    dsimp only [Option.map_some]
    rw [hmodel', hinput, houtput]
    dsimp only [Option.map_some]
    rw [if_neg hstatus']
    have hmeta : row.record.metaJson = some row.metaJson := rfl
    rw [hmeta, hadjust]
    exact reconcileFactCloseWith_stats _ _ _ _ _ _
  refine ⟨⟨row, hfind, hcaptured, hcharge⟩, hcloses, fun row' hfind' hreleased => ?_⟩
  obtain rfl := Option.some.inj (hfind.symm.trans hfind')
  rw [hcloses, reconcileFactCloseWith, foundAuthorization, hfind]
  dsimp only [Option.map_some]
  rw [if_neg]
  exact not_not.2 hreleased

end CodexPool
