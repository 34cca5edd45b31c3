import CodexPool.Tenant.HoldRows

/-!
# Retried captures and holds

A data plane that has lost the answer to a capture sends the capture again, and a gateway sends
a request again under its id. Whatever has happened in between, a request that has been captured
is not charged a second time, nor held again.
-/

namespace CodexPool

open Saturating

variable {call : BillingCall} {req : BillingCaptureRequest} {db db' : Db}

theorem runOps_rowChanges (ops : List BillingOp) (db : Db) :
    RowChanges db.authorizations (runOps ops db).authorizations := by
  induction ops generalizing db with
  | nil => exact .refl
  | cons op ops ih => exact (op.rowChanges db).trans (ih (op.run db))

theorem rowsSound_runOps (hfresh : db.Fresh) (ops : List BillingOp) :
    RowsSound (runOps ops db).authorizations := by
  apply RowsSound.rowChanges _ (runOps_rowChanges ops db)
  rw [hfresh.authorizations]
  exact rowsSound_nil

/-! ## What a capture answers -/

/-- The answer names the row, and a capture that comes again is told what was charged. -/
theorem billingCapture_answer {r : BillingCaptureResponse}
    (h : billingCapture call req db = (.ok r, db')) :
    ∃ row, db.findAuthorization req.tenantId (Text.trim req.requestId) = some row ∧
      r.authorizationId = row.id ∧
      (row.status = .captured → r.chargedMicrocredits = row.capturedMicrocredits) := by
  unfold billingCapture at h
  simp only at h
  split at h
  · cases (Prod.mk.inj h).1
  split at h
  · cases (Prod.mk.inj h).1
  obtain ⟨tx, hx, rfl⟩ := TxM.transaction_eq_ok.1 h
  unfold billingCaptureTx at hx
  obtain ⟨-, hx⟩ := fetchAuthorizationForUpdate_bind_eq_ok.1 hx
  cases hfind : db.findAuthorization req.tenantId (Text.trim req.requestId) with
  | none =>
      rw [hfind] at hx
      exact (TxM.fail_eq_ok.1 hx).elim
  | some row =>
      refine ⟨row, rfl, ?_⟩
      rw [hfind] at hx
      simp only [Option.map_some] at hx
      split at hx
      · obtain ⟨-, hx⟩ := TxM.query_bind_eq_ok.1 hx
        obtain ⟨rfl, -⟩ := Prod.mk.inj (TxM.pure_eq_ok.1 hx)
        exact ⟨rfl, fun _ => rfl⟩
      split at hx
      · exact (TxM.fail_eq_ok.1 hx).elim
      rename_i hnot hopen
      have hopen : row.status = .authorized := not_not.1 hopen
      refine ⟨?_, fun hcaptured => absurd (hopen.symm.trans hcaptured) nofun⟩
      rw [fetchSession_bind] at hx
      obtain ⟨decision, -, hx⟩ := TxM.ofResult_bind_eq_ok.1 hx
      obtain ⟨-, -, hx | ⟨b, db₁, -, hx⟩⟩ := applyCreditDeltaInner_bind_eq_ok hx
      · obtain ⟨-, db₂, -, hx⟩ := TxM.execute_bind_eq_ok.1 hx
        obtain ⟨u, tx₂, -, hx⟩ := TxM.bind_eq_ok.1 hx
        obtain ⟨rfl, -⟩ := Prod.mk.inj (TxM.pure_eq_ok.1 hx)
        rfl
      · cases (TxM.execute_bind_eq_ok.1 hx).1

theorem exists_kept_of_billingCapture {r : BillingCaptureResponse}
    (h : billingCapture call req db = (.ok r, db')) :
    ∃ c, Kept c db'.authorizations ∧ c.id = r.authorizationId ∧ c.tenantId = req.tenantId ∧
      c.requestId = Text.trim req.requestId ∧ c.capturedMicrocredits = r.chargedMicrocredits := by
  obtain ⟨row, hfind, hid, hcharged⟩ := billingCapture_answer h
  obtain ⟨hmem, htenant, hrequest⟩ := Db.findAuthorization_eq_some hfind
  obtain ⟨row', hfind', hdone⟩ := billingCapture_eq_ok_priced h
  obtain rfl := Option.some.inj (hfind.symm.trans hfind')
  obtain ⟨hcaptured, rfl⟩ | ⟨hopen, decision, p, sessions, -, hr, -, -, -, -, rfl⟩ := hdone
  · have hsame := SameCapture.refl (c := row) (by rw [hcaptured]; nofun)
    exact ⟨row, ⟨row, hmem, hsame⟩, hid.symm, htenant, hrequest, (hcharged hcaptured).symm⟩
  · let c := AuthorizationRow.capture (req.apiKeyId.or row.apiKeyId)
      (row.model.getD (Text.trim req.model)) (req.usage.charged decision.pricing)
      (captureMeta call req row.record decision) call.now row
    have hc : Kept c (Table.updateKey AuthorizationRow.id row.id
        (AuthorizationRow.capture (req.apiKeyId.or row.apiKeyId)
          (row.model.getD (Text.trim req.model)) (req.usage.charged decision.pricing)
          (captureMeta call req row.record decision) call.now) db.authorizations) :=
      ⟨c, Table.mem_updateKey.2 ⟨row, hmem, if_pos rfl⟩, SameCapture.refl nofun⟩
    exact ⟨c, hc, hid.symm, htenant, hrequest, hr.symm⟩

/-- The row that is found for the request after a capture and more operations. -/
theorem exists_findAuthorization_of_captured (hsound : RowsSound db.authorizations)
    {r : BillingCaptureResponse} (h : billingCapture call req db = (.ok r, db'))
    (ops : List BillingOp) :
    ∃ a, (runOps ops db').findAuthorization req.tenantId (Text.trim req.requestId) = some a ∧
      a.id = r.authorizationId ∧ a.capturedMicrocredits = r.chargedMicrocredits ∧
      a.status ≠ .authorized := by
  obtain ⟨c, hkept, hid, htenant, hrequest, hcharged⟩ := exists_kept_of_billingCapture h
  have hchanges : RowChanges db.authorizations db'.authorizations := by
    have hrows := billingCapture_rowChanges call req db
    rwa [h] at hrows
  have hsound' := hsound.rowChanges hchanges
  have hrun := runOps_rowChanges ops db'
  obtain ⟨a, hfind, hsame⟩ :=
    (hkept.rowChanges hsound' hrun).findAuthorization (hsound'.rowChanges hrun)
  rw [htenant, hrequest] at hfind
  exact ⟨a, hfind, hsame.id.trans hid, hsame.capturedMicrocredits.trans hcharged, hsame.status⟩

/-! ## The request comes again -/

/-- A capture that comes again, with any usage and after any operations, writes nothing. It is told
the same charge, or that the hold has been closed. -/
theorem retried_billingCapture (hfresh : db.Fresh) (before : List BillingOp)
    {r : BillingCaptureResponse} (h : billingCapture call req (runOps before db) = (.ok r, db'))
    (ops : List BillingOp) (call' : BillingCall) (req' : BillingCaptureRequest)
    (htenant : req'.tenantId = req.tenantId)
    (hrequest : Text.trim req'.requestId = Text.trim req.requestId) :
    (billingCapture call' req' (runOps ops db')).2 = runOps ops db' ∧
      ∀ r', (billingCapture call' req' (runOps ops db')).1 = .ok r' →
        r'.authorizationId = r.authorizationId ∧
          r'.chargedMicrocredits = r.chargedMicrocredits := by
  obtain ⟨a, hfind, hid, hcharged, hstatus⟩ :=
    exists_findAuthorization_of_captured (rowsSound_runOps hfresh before) h ops
  rw [← htenant, ← hrequest] at hfind
  rcases hr : billingCapture call' req' (runOps ops db') with ⟨e | r', after⟩
  · refine ⟨billingCapture_error hr, fun r' hok => ?_⟩
    cases hok
  · obtain ⟨row, hrow, hrowid, hrowcharged⟩ := billingCapture_answer hr
    obtain rfl := Option.some.inj (hfind.symm.trans hrow)
    obtain ⟨row', hrow', hdone⟩ := billingCapture_eq_ok_priced hr
    obtain rfl := Option.some.inj (hfind.symm.trans hrow')
    obtain ⟨hcaptured, rfl⟩ | ⟨hopen, -⟩ := hdone
    · refine ⟨rfl, ?_⟩
      rintro _ ⟨⟩
      exact ⟨hrowid.trans hid, (hrowcharged hcaptured).trans hcharged⟩
    · exact absurd hopen hstatus

/-- No hold is taken for a request that has been captured. -/
theorem retried_billingAuthorize (hfresh : db.Fresh) (before : List BillingOp)
    {r : BillingCaptureResponse} (h : billingCapture call req (runOps before db) = (.ok r, db'))
    (ops : List BillingOp) (call' : BillingCall) (req' : BillingAuthorizeRequest)
    (htenant : req'.tenantId = req.tenantId)
    (hrequest : Text.trim req'.requestId = Text.trim req.requestId) :
    (billingAuthorize call' req' (runOps ops db')).2 = runOps ops db' ∧
      ∀ r', (billingAuthorize call' req' (runOps ops db')).1 ≠ .ok r' := by
  obtain ⟨a, hfind, -, -, hstatus⟩ :=
    exists_findAuthorization_of_captured (rowsSound_runOps hfresh before) h ops
  rw [← htenant, ← hrequest] at hfind
  rcases hr : billingAuthorize call' req' (runOps ops db') with ⟨e | r', after⟩
  · refine ⟨billingAuthorize_error hr, fun r' hok => ?_⟩
    cases hok
  · exfalso
    unfold billingAuthorize at hr
    simp only at hr
    split at hr
    · cases (Prod.mk.inj hr).1
    split at hr
    · cases (Prod.mk.inj hr).1
    split at hr
    · cases (Prod.mk.inj hr).1
    obtain ⟨tx, hx, rfl⟩ := TxM.transaction_eq_ok.1 hr
    unfold billingAuthorizeTx at hx
    replace hx := (fetchAuthorizationForUpdate_bind_eq_ok.1 hx).2
    rw [hfind] at hx
    simp only [Option.map_some] at hx
    split at hx
    · exact (TxM.fail_eq_ok.1 hx).elim
    · rename_i hreusable
      have hopen : a.record.status = .authorized := by
        simpa [authorizationReusableForAuthorize] using hreusable
      exact hstatus hopen

theorem exists_captured_sample : ∃ r db', billingCapture (sampleCall 2 sampleTenant)
    (sampleCapture 60) (runOps (sampleRun.take 2) sampleDb) = (.ok r, db') := by
  have hok : (billingCapture (sampleCall 2 sampleTenant) (sampleCapture 60)
      (runOps (sampleRun.take 2) sampleDb)).1.toBool = true := by
    decide +kernel
  rcases h : billingCapture (sampleCall 2 sampleTenant) (sampleCapture 60)
    (runOps (sampleRun.take 2) sampleDb) with ⟨e | r, db'⟩
  · rw [h] at hok
    cases hok
  · exact ⟨r, db', rfl⟩

/-- The usage of the second capture is not charged. -/
theorem retried_billingCapture_sample : ∃ r db', billingCapture (sampleCall 2 sampleTenant)
      (sampleCapture 60) (runOps (sampleRun.take 2) sampleDb) = (.ok r, db') ∧
    (billingCapture (sampleCall 3 sampleTenant) (sampleCapture 90) (runOps sampleRun db')).2 =
      runOps sampleRun db' := by
  obtain ⟨r, db', h⟩ := exists_captured_sample
  exact ⟨r, db', h, (retried_billingCapture sampleDb_fresh (sampleRun.take 2) h sampleRun
    (sampleCall 3 sampleTenant) (sampleCapture 90) rfl rfl).1⟩

theorem retried_billingAuthorize_sample : ∃ r db', billingCapture (sampleCall 2 sampleTenant)
      (sampleCapture 60) (runOps (sampleRun.take 2) sampleDb) = (.ok r, db') ∧
    (billingAuthorize (sampleCall 3 sampleTenant) (sampleAuthorize 200) (runOps sampleRun db')).2 =
      runOps sampleRun db' := by
  obtain ⟨r, db', h⟩ := exists_captured_sample
  exact ⟨r, db', h, (retried_billingAuthorize sampleDb_fresh (sampleRun.take 2) h sampleRun
    (sampleCall 3 sampleTenant) (sampleAuthorize 200) rfl rfl).1⟩

end CodexPool
