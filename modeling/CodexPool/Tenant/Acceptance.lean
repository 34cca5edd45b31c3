import CodexPool.Tenant.Conservation

/-!
# When captures and releases are accepted

In tables that a run has reached, a capture of an open hold is accepted exactly
when its price resolves and the balance covers what the charge exceeds the
reservation by. A release of a stored authorization is always accepted.
-/

namespace CodexPool

open Saturating HoldLedger

/-- The properties of the tables that a run has reached. -/
structure Db.Valid (db : Db) : Prop where
  sound : db.book.Sound
  balanced : db.Balanced
  keyed : db.Keyed

theorem Db.Fresh.valid {db : Db} (h : db.Fresh) : db.Valid :=
  ⟨h.sound, h.balanced, h.keyed⟩

theorem Simulates.valid {db db' : Db} {ms : List (Move Uuid Uuid)}
    (h : Simulates db ms db') (hv : db.Valid) : db'.Valid :=
  ⟨h.run.sound hv.sound, h.balanced hv.balanced, h.keyed hv.keyed⟩

theorem runOps_valid {db₀ : Db} (h₀ : db₀.Fresh) (ops : List BillingOp) :
    (runOps ops db₀).Valid := by
  obtain ⟨ms, hsim, -⟩ := runOps_simulates ops h₀.sound
  exact hsim.valid h₀.valid

theorem Db.findAuthorization_updateAuthorization {db : Db} {t : Uuid} {rid : String}
    {row : AuthorizationRow} {g : AuthorizationRow → AuthorizationRow}
    (h : db.findAuthorization t rid = some row)
    (ht : ∀ a, (g a).tenantId = a.tenantId) (hr : ∀ a, (g a).requestId = a.requestId) :
    (db.updateAuthorization row.id g).findAuthorization t rid = some (g row) := by
  unfold Db.findAuthorization Db.updateAuthorization Table.updateKey at *
  rw [List.find?_map]
  have hp : ((fun r : AuthorizationRow => decide (r.tenantId = t ∧ r.requestId = rid)) ∘
      fun x => if x.id = row.id then g x else x) =
      fun r => decide (r.tenantId = t ∧ r.requestId = rid) := by
    funext a
    by_cases hid : a.id = row.id <;> simp [hid, ht, hr]
  rw [hp, h, Option.map_some, if_pos rfl]

theorem applyCreditDeltaInner_of_nonneg {p : CreditDeltaParams} {db : Db}
    (hn : 0 ≤ (db.nextBalance p).val) (ht : p.tenantId ∈ db.tenants)
    (hc : db.ledgerConflict (p.ledgerRow (db.nextBalance p)) = false) :
    applyCreditDeltaInner p ⟨db, false⟩ =
      .ok (db.nextBalance p, ⟨db.post p, false⟩) := by
  have hn' : ¬db.nextBalance p < 0 := not_lt.2 hn
  rw [applyCreditDeltaInner_run, if_neg hn', if_neg (not_not.2 ht), hc]
  rfl

theorem Db.Keyed.no_conflict {db : Db} (hk : db.Keyed) {row : AuthorizationRow}
    (hrow : row ∈ db.authorizations) (hst : row.status = .authorized) {l : LedgerRow}
    (ht : l.tenantId = row.tenantId) (hr : l.requestId = some row.requestId) :
    db.ledgerConflict l = false := by
  unfold Db.ledgerConflict
  rw [Bool.and_eq_false_iff]
  right
  rw [List.any_eq_false]
  intro x hx
  simp only [decide_eq_true_eq, not_and]
  intro hxt hxr
  obtain ⟨a, ha, hat, har, hast⟩ := hk.ledger_request x hx row.requestId (hxr.trans hr)
  have hkey : (a.tenantId, a.requestId) = (row.tenantId, row.requestId) := by
    rw [hat, har, hxt, ht]
  exact hast (List.inj_on_of_nodup_map hk.request_nodup ha hrow hkey ▸ hst)

theorem touchSession_isOk (t : Uuid) (key : Option String) (model : String)
    (band : BillingPricingBand) (now : DateTime) (db : Db) :
    ∃ db', touchSession t key model band now ⟨db, false⟩ = .ok ((), ⟨db', false⟩) := by
  cases key with
  | none => exact ⟨db, rfl⟩
  | some value =>
      unfold touchSession upsertBillingSession
      simp only
      split
      · exact ⟨db, rfl⟩
      · exact ⟨_, TxM.execute_of_some rfl⟩

theorem val_satAdd_neg_extra {b c r : I64} (hb : 0 ≤ b.val) (hc : 0 ≤ c.val)
    (hr : 0 ≤ r.val) :
    (b.satAdd (-max (c.satSub r) 0)).val = b.val - max (c.val - r.val) 0 := by
  have hmax := I64.val_satSub_max_zero hc hr
  have hneg : (-max (c.satSub r) 0 : I64).val = -max (c.val - r.val) 0 := by
    rw [I64.val_neg (by rw [hmax]; exact le_max_right _ _), hmax]
  have hb' := b.le_hi
  have hc' := c.le_hi
  rw [Bounded.val_satAdd, hneg, clamp_of_mem (by omega) (by omega)]
  ring

/-- A capture of an open hold is accepted exactly when its price resolves and
the balance covers what the charge exceeds the reservation by. -/
theorem billingCapture_accepted_iff {db : Db} (hv : db.Valid) {call : BillingCall}
    {req : BillingCaptureRequest} {row : AuthorizationRow}
    (hid : Text.trim req.requestId ≠ "") (hmodel : Text.trim req.model ≠ "")
    (hfind : db.findAuthorization req.tenantId (Text.trim req.requestId) = some row)
    (hst : row.status = .authorized) :
    (∃ r db', billingCapture call req db = (.ok r, db')) ↔
      ∃ c, captureCharge call req row db = .ok c ∧
        c.val - row.reservedMicrocredits.val ≤ (db.balance req.tenantId).val := by
  obtain ⟨hrow, htid, hrid⟩ := Db.findAuthorization_eq_some hfind
  have hres : 0 < row.reservedMicrocredits.val :=
    hv.sound.reserved_pos row.hold (List.mem_map_of_mem hrow)
  have hbal := hv.balanced.nonneg req.tenantId
  have hmem : req.tenantId ∈ db.tenants := htid ▸ hv.keyed.tenant_mem row hrow
  constructor
  · rintro ⟨r, db', h⟩
    obtain ⟨row', hfind', hcase⟩ := billingCapture_eq_ok h
    obtain rfl := Option.some.inj (hfind.symm.trans hfind')
    rcases hcase with ⟨hst', -⟩ | ⟨-, c, p, fields, sessions, hc, -, hn, hp, -, hd, -⟩
    · rw [hst] at hst'
      cases hst'
    · refine ⟨c, hc, ?_⟩
      rw [Db.nextBalance, hp.tenantId, htid, hd,
        val_satAdd_neg_extra hbal (captureCharge_nonneg hc) (le_of_lt hres)] at hn
      omega
  · rintro ⟨c, hc, hle⟩
    have hc₀ := captureCharge_nonneg hc
    unfold captureCharge at hc
    obtain ⟨decision, hdec, rfl⟩ := Except.map_eq_ok hc
    have htx : TxM.Succeeds (billingCaptureTx call req (Text.trim req.requestId)
        (Text.trim req.model)) ⟨db, false⟩ := by
      unfold billingCaptureTx
      rw [fetchAuthorizationForUpdate_eq]
      refine .bind rfl ?_
      simp only [hfind, Option.map_some]
      have hst' : row.record.status = .authorized := hst
      rw [hst', if_neg (by decide), if_neg (by decide)]
      refine .bind (fetchSession_run _ _ _ _) (.bind (TxM.ofResult_of_ok hdec _) ?_)
      refine .bind (applyCreditDeltaInner_of_nonneg ?_ ?_ ?_) ?_
      · have hnext := val_satAdd_neg_extra hbal hc₀ (le_of_lt hres)
        refine le_of_le_of_eq ?_ hnext.symm
        omega
      · exact hmem
      · exact hv.keyed.no_conflict hrow hst htid.symm (congrArg some hrid.symm)
      · obtain ⟨db', htouch⟩ := touchSession_isOk req.tenantId
          (req.effectiveSessionKey row.record) (Text.trim req.model) decision.band call.now _
        exact .bind (TxM.execute_of_some rfl) (.bind htouch (.pure _ _))
    obtain ⟨r, db', h⟩ := htx.transaction
    refine ⟨r, db', ?_⟩
    unfold billingCapture
    simp only [hid, hmodel, if_false]
    exact h

/-- A release of a stored authorization is accepted. -/
theorem billingRelease_accepted {db : Db} (hv : db.Valid) {call : BillingCall}
    {req : BillingReleaseRequest} {row : AuthorizationRow}
    (hid : Text.trim req.requestId ≠ "")
    (hfind : db.findAuthorization req.tenantId (Text.trim req.requestId) = some row) :
    ∃ r db', billingRelease call req db = (.ok r, db') := by
  obtain ⟨hrow, htid, -⟩ := Db.findAuthorization_eq_some hfind
  have hbal := hv.balanced.nonneg req.tenantId
  have hmem : req.tenantId ∈ db.tenants := htid ▸ hv.keyed.tenant_mem row hrow
  have htx : TxM.Succeeds (billingReleaseTx call req (Text.trim req.requestId))
      ⟨db, false⟩ := by
    unfold billingReleaseTx
    rw [fetchAuthorizationForUpdate_eq]
    refine .bind rfl ?_
    simp only [hfind, Option.map_some]
    split
    · exact .bind rfl (.pure _ _)
    split
    · rename_i hpos
      have hpos' : 0 < row.record.releaseMicrocredits.val := hpos
      refine .bind (applyCreditDeltaInner_of_nonneg ?_ ?_ rfl) ?_
      · exact I64.val_satAdd_nonneg hbal (le_of_lt hpos')
      · exact hmem
      · exact .bind (TxM.execute_of_some rfl) (.pure _ _)
    · exact .bind rfl (.bind (TxM.execute_of_some rfl) (.pure _ _))
  obtain ⟨r, db', h⟩ := htx.transaction
  refine ⟨r, db', ?_⟩
  unfold billingRelease
  simp only [hid, if_false]
  exact h

end CodexPool
