import CodexPool.Tenant.Repricing

/-!
# Captures and adjustments agree

A capture prices its request by the live session, an adjustment by what the capture has left in
the metadata of the hold. From every state that a run of the billing operations reaches, an
adjustment to the usage of a capture finds the charge of the capture and changes nothing, also
after other operations. A capture of a hold that was captured before is no such capture: it
succeeds with the earlier charge, whatever usage it reports.
-/

namespace CodexPool

open Saturating

theorem rowChanges_runOps (ops : List BillingOp) (db : Db) :
    RowChanges db.authorizations (runOps ops db).authorizations := by
  induction ops generalizing db with
  | nil => exact .refl
  | cons op ops ih => exact (op.rowChanges db).trans (ih (op.run db))

theorem Db.Fresh.rowsSound {db₀ : Db} (h₀ : db₀.Fresh) (ops : List BillingOp) :
    RowsSound (runOps ops db₀).authorizations := by
  apply RowsSound.rowChanges _ (rowChanges_runOps ops db₀)
  rw [h₀.authorizations]
  exact rowsSound_nil

section Capture

variable {call : BillingCall} {req : BillingCaptureRequest} {row a : AuthorizationRow}
  {decision : BillingPricingDecision} {session : Option String}

/-- The charge of an adjustment of a captured hold to the usage of its capture. -/
theorem expectedCharge_of_sameCapture (hobject : row.metaJson.isObject = true)
    (hkey : req.apiKeyId = row.apiKeyId)
    (hpricing : req.pricing call (Text.trim req.model) row.record session = .ok decision)
    (hsame : SameCapture (capturedRow call req row decision) a) {call' : BillingCall}
    (htables : call'.tables = call.tables) (henv : call'.env = call.env) :
    expectedCharge call' (Text.trim req.model) req.usage req.serviceTier a =
      .ok (req.usage.charged decision.pricing) := by
  have hreq : { req with apiKeyId := row.apiKeyId.or req.apiKeyId } = req := by
    rw [hkey, Option.or_self, ← hkey]
  have hpriced := adjustPricing_of_sameCapture hobject hpricing hsame htables henv
    (rfl : req.usage.inputTokens = req.usage.inputTokens)
  rw [hreq, hpricing] at hpriced
  have htier : adjustPricing call' (Text.trim req.model) req.usage req.serviceTier a.record =
      adjustPricing call' (Text.trim req.model) req.usage
        (req.serviceTier.or (authorizationServiceTier (some a.metaJson))) a.record := by
    have hor : (req.serviceTier.or (authorizationServiceTier (some a.metaJson))).or
        (authorizationServiceTier a.record.metaJson) =
          req.serviceTier.or (authorizationServiceTier a.record.metaJson) := by
      cases req.serviceTier with
      | none => exact Option.or_self
      | some tier => rfl
    rw [adjustPricing, adjustPricing, hor]
  rw [expectedCharge, htier, hpriced]
  rfl

end Capture

/-- The row that a capture leaves is found after every run, with the same price fields. -/
theorem findAuthorization_after_capture {db db₁ : Db} (hsound : RowsSound db.authorizations)
    {call : BillingCall} {req : BillingCaptureRequest} {row : AuthorizationRow}
    {r : BillingCaptureResponse}
    (hfind : db.findAuthorization req.tenantId (Text.trim req.requestId) = some row)
    (hopen : row.status = .authorized) (hcapture : billingCapture call req db = (.ok r, db₁))
    (later : List BillingOp) :
    ∃ decision a,
      req.pricing call (Text.trim req.model) row.record (db.sessionBand call req.tenantId
        (req.effectiveSessionKey row.record)) = .ok decision ∧
      r.chargedMicrocredits = req.usage.charged decision.pricing ∧
      (runOps later db₁).findAuthorization req.tenantId (Text.trim req.requestId) = some a ∧
      SameCapture (capturedRow call req row decision) a := by
  have hchanges : RowChanges db.authorizations db₁.authorizations := by
    have hrows := billingCapture_rowChanges call req db
    rw [hcapture] at hrows
    exact hrows
  rcases billingCapture_eq_ok_priced hcapture with ⟨row', hfind', hdone⟩
  cases Option.some.inj (hfind.symm.trans hfind')
  rcases hdone with ⟨hcaptured, -⟩ | ⟨-, decision, p, sessions, hpricing, hr, -, -, -, -, hdb⟩
  · rw [hopen] at hcaptured
    cases hcaptured
  rcases Db.findAuthorization_eq_some hfind with ⟨hmem, htenant, hrequest⟩
  have hkept : Kept (capturedRow call req row decision) db₁.authorizations := by
    rw [hdb]
    exact ⟨_, Table.mem_updateKey.2 ⟨row, hmem, if_pos rfl⟩, .refl nofun⟩
  have hsound₁ : RowsSound db₁.authorizations := hsound.rowChanges hchanges
  have hlater := rowChanges_runOps later db₁
  rcases (hkept.rowChanges hsound₁ hlater).findAuthorization (hsound₁.rowChanges hlater) with
    ⟨a, ha, hsame⟩
  refine ⟨decision, a, hpricing, hr, ?_, hsame⟩
  rw [← htenant, ← hrequest]
  exact ha

/-- A capture that settles an open hold under its own API key, and an adjustment after it to the
same model, usage and service tier, under the same prices. -/
theorem adjust_after_capture {db₀ : Db} (h₀ : db₀.Fresh) (ops : List BillingOp)
    {call : BillingCall} {req : BillingCaptureRequest} {row : AuthorizationRow}
    {r : BillingCaptureResponse} {db₁ : Db}
    (hfind : (runOps ops db₀).findAuthorization req.tenantId (Text.trim req.requestId) = some row)
    (hopen : row.status = .authorized) (hkey : req.apiKeyId = row.apiKeyId)
    (hcapture : billingCapture call req (runOps ops db₀) = (.ok r, db₁))
    (later : List BillingOp) {call' : BillingCall} (htables : call'.tables = call.tables)
    (henv : call'.env = call.env) (apiKeyId : Option Uuid) :
    (∃ a, (runOps later db₁).findAuthorization req.tenantId (Text.trim req.requestId) = some a ∧
      expectedCharge call' (Text.trim req.model) req.usage req.serviceTier a =
        .ok r.chargedMicrocredits) ∧
      reconcileAdjustCapturedAmount call' req.tenantId (Text.trim req.requestId)
          (Text.trim req.model) req.inputTokens req.cachedInputTokens req.outputTokens
          req.reasoningTokens apiKeyId req.serviceTier (runOps later db₁) =
        (.ok false, runOps later db₁) := by
  have hsound := h₀.rowsSound ops
  rcases findAuthorization_after_capture hsound hfind hopen hcapture later with
    ⟨decision, a, hpricing, hr, ha, hsame⟩
  have hobject : row.metaJson.isObject = true :=
    hsound.objects row (Db.findAuthorization_eq_some hfind).1
  have hcharge := expectedCharge_of_sameCapture hobject hkey hpricing hsame htables henv
  constructor
  · exact ⟨a, ha, by rw [hcharge, hr]⟩
  · apply reconcileAdjustCapturedAmount_of_eq ha
    rw [hsame.capturedMicrocredits]
    exact hcharge

def sampleOpenRow : AuthorizationRow :=
  ((runOps (sampleRun.take 2) sampleDb).findAuthorization sampleTenant "req-1").get
    (by decide +kernel)

theorem adjust_after_capture_sample :
    (reconcileAdjustCapturedAmount (sampleCall 3 sampleTenant) sampleTenant "req-1" "gpt-5.4"
      60 0 0 0 none none
      (billingCapture (sampleCall 2 sampleTenant) (sampleCapture 60)
        (runOps (sampleRun.take 2) sampleDb)).2).1 = .ok false := by
  have hfind : (runOps (sampleRun.take 2) sampleDb).findAuthorization sampleTenant "req-1" =
      some sampleOpenRow := (Option.some_get _).symm
  cases hcapture : billingCapture (sampleCall 2 sampleTenant) (sampleCapture 60)
      (runOps (sampleRun.take 2) sampleDb) with
  | mk result db₁ =>
      cases result with
      | error e =>
          have hok : (billingCapture (sampleCall 2 sampleTenant) (sampleCapture 60)
              (runOps (sampleRun.take 2) sampleDb)).1.toBool = true := by decide +kernel
          rw [hcapture] at hok
          cases hok
      | ok r =>
          exact congrArg Prod.fst
            (adjust_after_capture sampleDb_fresh (sampleRun.take 2) hfind (by decide +kernel)
              (by decide +kernel) hcapture []
              (rfl : (sampleCall 3 sampleTenant).tables = (sampleCall 2 sampleTenant).tables)
              rfl none).2

/-- A hold that was captured at 60 tokens is captured again at 80, which succeeds, and the
adjustment to 80 tokens then changes it. -/
theorem adjust_after_repeated_capture :
    ((runOps sampleRun sampleDb).findAuthorization sampleTenant "req-1").map
        (·.apiKeyId) = some (sampleCapture 80).apiKeyId ∧
      (billingCapture (sampleCall 3 sampleTenant) (sampleCapture 80)
        (runOps sampleRun sampleDb)).1.toBool = true ∧
      (reconcileAdjustCapturedAmount (sampleCall 3 sampleTenant) sampleTenant "req-1" "gpt-5.4"
        80 0 0 0 none none
        (billingCapture (sampleCall 3 sampleTenant) (sampleCapture 80)
          (runOps sampleRun sampleDb)).2).1 ≠ .ok false := by
  decide +kernel

end CodexPool
