import CodexPool.Lib.JsonMerge
import CodexPool.Tenant.Conservation
import Mathlib.Logic.Relation

/-!
# The rows of the holds

What the billing operations may do to the rows of `tenant_credit_authorizations`: a row is
inserted, an open one is captured, and a row is closed by a release or by the sweep. Nothing
else is done to a row that has been captured, so that it keeps its charge and what its
metadata says about its price.
-/

namespace CodexPool

open Saturating

/-- What one operation does to one row. -/
inductive RowChange : List AuthorizationRow → List AuthorizationRow → Prop where
  | insert {rows : List AuthorizationRow} (row : AuthorizationRow)
      (hnew : ∀ r ∈ rows,
        r.id ≠ row.id ∧ ¬(r.tenantId = row.tenantId ∧ r.requestId = row.requestId))
      (hobject : row.metaJson.isObject = true) : RowChange rows (rows ++ [row])
  | capture {rows : List AuthorizationRow} {row : AuthorizationRow} (hmem : row ∈ rows)
      (hopen : row.status = .authorized) (apiKeyId : Option Uuid) (model : String)
      (charged : I64) (fields : Json) (now : DateTime) :
      RowChange rows (Table.updateKey AuthorizationRow.id row.id
        (AuthorizationRow.capture apiKeyId model charged fields now) rows)
  | release (rows : List AuthorizationRow) (id : Uuid) (now : DateTime) :
      RowChange rows (Table.updateKey AuthorizationRow.id id (AuthorizationRow.release now) rows)
  | sweep (rows : List AuthorizationRow) (id : Uuid) (call : BillingCall)
      (authorization : BillingAuthorizationRecord) :
      RowChange rows (Table.updateKey AuthorizationRow.id id
        (AuthorizationRow.reconcileRelease (reconcileMeta call authorization) call.now) rows)

abbrev RowChanges : List AuthorizationRow → List AuthorizationRow → Prop :=
  Relation.ReflTransGen RowChange

/-! ## The operations -/

theorem adminRechargeTenant_authorizations (call : BillingCall) (tenantId : Uuid)
    (req : AdminRechargeRequest) (db : Db) :
    (adminRechargeTenant call tenantId req db).2.authorizations = db.authorizations := by
  rcases hr : adminRechargeTenant call tenantId req db with ⟨⟨e⟩ | ⟨r⟩, db'⟩
  · rw [adminRechargeTenant_error hr]
  · unfold adminRechargeTenant at hr
    split at hr
    · cases (Prod.mk.inj hr).1
    · rcases TxM.transaction_eq_ok.1 hr with ⟨tx, hx, rfl⟩
      rcases applyCreditDeltaInner_bind_eq_ok hx with ⟨-, -, hp | ⟨b, db₁, hreq, -⟩⟩
      · rcases Prod.mk.inj (TxM.pure_eq_ok.1 hp) with ⟨-, rfl⟩
        rfl
      · cases hreq

theorem dailyCheckin_authorizations (call : BillingCall) (tenantId : Uuid) (db : Db) :
    (dailyCheckin call tenantId db).2.authorizations = db.authorizations := by
  rcases hr : dailyCheckin call tenantId db with ⟨⟨e⟩ | ⟨r⟩, db'⟩
  · rw [TxM.transaction_error hr]
  · unfold dailyCheckin at hr
    rcases TxM.transaction_eq_ok.1 hr with ⟨tx, hx, rfl⟩
    replace hx := (TxM.query_bind_eq_ok.1 hx).2
    split at hx
    · exact (TxM.fail_eq_ok.1 hx).elim
    · rcases TxM.execute_bind_eq_ok.1 hx with ⟨-, db₁, hins, hx⟩
      rcases Db.insertCheckin_eq_some hins with ⟨c, rfl⟩
      rcases applyCreditDeltaInner_bind_eq_ok hx with ⟨-, -, hp | ⟨b, db₂, hreq, -⟩⟩
      · rcases Prod.mk.inj (TxM.pure_eq_ok.1 hp) with ⟨-, rfl⟩
        rfl
      · cases hreq

theorem Db.insertAuthorization_rowChange {db db' : Db} {row : AuthorizationRow}
    (h : db.insertAuthorization row = some db') (hobject : row.metaJson.isObject = true) :
    RowChange db.authorizations db'.authorizations := by
  rcases Db.insertAuthorization_eq_some.1 h with ⟨hnew, -, rfl⟩
  exact .insert row hnew hobject

theorem billingAuthorize_rowChanges (call : BillingCall) (req : BillingAuthorizeRequest)
    (db : Db) : RowChanges db.authorizations (billingAuthorize call req db).2.authorizations := by
  rcases hr : billingAuthorize call req db with ⟨⟨e⟩ | ⟨r⟩, db'⟩
  · rw [billingAuthorize_error hr]
  · unfold billingAuthorize at hr
    simp only at hr
    split at hr
    · cases (Prod.mk.inj hr).1
    split at hr
    · cases (Prod.mk.inj hr).1
    split at hr
    · cases (Prod.mk.inj hr).1
    rcases TxM.transaction_eq_ok.1 hr with ⟨tx, hx, rfl⟩
    unfold billingAuthorizeTx at hx
    replace hx := (fetchAuthorizationForUpdate_bind_eq_ok.1 hx).2
    cases hfind : db.findAuthorization req.tenantId (Text.trim req.requestId) with
    | some row =>
        rw [hfind] at hx
        simp only [Option.map_some] at hx
        split at hx
        · exact (TxM.fail_eq_ok.1 hx).elim
        · replace hx := (TxM.query_bind_eq_ok.1 hx).2
          rcases Prod.mk.inj (TxM.pure_eq_ok.1 hx) with ⟨-, rfl⟩
          exact .refl
    | none =>
        rw [hfind] at hx
        simp only [Option.map_none] at hx
        rw [fetchSession_bind] at hx
        rcases TxM.ofResult_bind_eq_ok.1 hx with ⟨decision, hdec, hx⟩
        rcases applyCreditDeltaInner_bind_eq_ok hx with ⟨-, -, hx | ⟨b, db₁, hreq, -⟩⟩
        · rcases TxM.execute_bind_eq_ok.1 hx with ⟨-, db₂, hins, hx⟩
          rcases TxM.bind_eq_ok.1 hx with ⟨u, tx₂, htouch, hx⟩
          rcases touchSession_eq_ok htouch with ⟨s, rfl⟩
          rcases Prod.mk.inj (TxM.pure_eq_ok.1 hx) with ⟨-, rfl⟩
          have hinsert := Db.insertAuthorization_rowChange hins rfl
          exact .single hinsert
        · cases hreq

theorem billingCapture_rowChanges (call : BillingCall) (req : BillingCaptureRequest) (db : Db) :
    RowChanges db.authorizations (billingCapture call req db).2.authorizations := by
  rcases hr : billingCapture call req db with ⟨⟨e⟩ | ⟨r⟩, db'⟩
  · rw [billingCapture_error hr]
  · rcases billingCapture_eq_ok_priced hr with ⟨row, hfind, ⟨-, rfl⟩ | ⟨hopen, decision, p,
      sessions, -, -, -, -, -, -, rfl⟩⟩
    · exact .refl
    · exact .single (.capture (Db.findAuthorization_eq_some hfind).1 hopen _ _ _ _ _)

theorem Db.authorizations_refund (db : Db) (p : CreditDeltaParams) :
    (db.refund p).authorizations = db.authorizations := by
  unfold Db.refund
  split <;> rfl

theorem billingRelease_rowChanges (call : BillingCall) (req : BillingReleaseRequest) (db : Db) :
    RowChanges db.authorizations (billingRelease call req db).2.authorizations := by
  rcases hr : billingRelease call req db with ⟨⟨e⟩ | ⟨r⟩, db'⟩
  · rw [billingRelease_error hr]
  · rcases billingRelease_eq_ok hr with ⟨row, -, ⟨-, rfl⟩ | ⟨-, -, rfl⟩⟩
    · exact .refl
    · apply Relation.ReflTransGen.single
      rw [Db.updateAuthorization]
      dsimp only
      rw [Db.authorizations_refund]
      exact .release _ _ _

theorem reconcileRows_rowChanges {call : BillingCall} (rows : List AuthorizationRow)
    {stats : BillingReconcileStats} {db : Db} {r : BillingReconcileStats × Tx}
    (h : reconcileRows call stats (rows.map fun row => ⟨authorizationColumns, row⟩)
      ⟨db, false⟩ = .ok r) :
    r.2.aborted = false ∧ RowChanges db.authorizations r.2.db.authorizations := by
  induction rows generalizing db stats with
  | nil =>
      rw [TxM.pure_eq_ok.1 h]
      exact ⟨rfl, .refl⟩
  | cons row rows ih =>
      rw [List.map_cons, reconcileRows] at h
      rcases TxM.bind_eq_ok.1 h with ⟨stats', tx, hone, h⟩
      have htx := (reconcileRow_eq_ok hone).2
      dsimp only at htx
      subst htx
      rcases ih h with ⟨haborted, hchanges⟩
      refine ⟨haborted, .head ?_ hchanges⟩
      rw [Db.updateAuthorization]
      dsimp only
      rw [Db.authorizations_refund]
      exact .sweep _ _ _ _

theorem billingReconcileOnce_rowChanges (call : BillingCall) (req : BillingReconcileRequest)
    (db : Db) :
    RowChanges db.authorizations (billingReconcileOnce call req db).2.authorizations := by
  rcases hr : billingReconcileOnce call req db with ⟨⟨e⟩ | ⟨r⟩, db'⟩
  · rw [TxM.transaction_error hr]
  · unfold billingReconcileOnce at hr
    rcases TxM.transaction_eq_ok.1 hr with ⟨tx, hx, rfl⟩
    replace hx := (TxM.query_bind_eq_ok.1 hx).2
    rcases reconcileRows_rowChanges (sweepRows call req db) hx with ⟨haborted, hchanges⟩
    dsimp only at haborted
    rw [haborted]
    exact hchanges

theorem BillingOp.rowChanges (op : BillingOp) (db : Db) :
    RowChanges db.authorizations (op.run db).authorizations := by
  cases op with
  | recharge call t req =>
      rw [BillingOp.run, adminRechargeTenant_authorizations]
  | checkin call t => rw [BillingOp.run, dailyCheckin_authorizations]
  | authorize call req =>
      rw [BillingOp.run]
      exact billingAuthorize_rowChanges call req db
  | capture call req =>
      rw [BillingOp.run]
      exact billingCapture_rowChanges call req db
  | release call req =>
      rw [BillingOp.run]
      exact billingRelease_rowChanges call req db
  | reconcileOnce call req =>
      rw [BillingOp.run]
      exact billingReconcileOnce_rowChanges call req db

/-! ## Sound rows -/

structure RowsSound (rows : List AuthorizationRow) : Prop where
  ids : (rows.map AuthorizationRow.id).Nodup
  requests : (rows.map fun a => (a.tenantId, a.requestId)).Nodup
  objects : ∀ a ∈ rows, a.metaJson.isObject = true

theorem rowsSound_nil : RowsSound [] where
  ids := List.nodup_nil
  requests := List.nodup_nil
  objects _ ha := absurd ha List.not_mem_nil

variable {rows rows' : List AuthorizationRow} {id : Uuid}
  {g : AuthorizationRow → AuthorizationRow}

theorem map_updateKey {β : Type*} {f : AuthorizationRow → β} (hf : ∀ a, f (g a) = f a) :
    (Table.updateKey AuthorizationRow.id id g rows).map f = rows.map f := by
  rw [Table.updateKey, List.map_map]
  apply List.map_congr_left
  intro a _
  by_cases h : a.id = id <;> simp [h, hf]

theorem RowsSound.updateKey (h : RowsSound rows) (hid : ∀ a, (g a).id = a.id)
    (hrequest : ∀ a, (g a).tenantId = a.tenantId ∧ (g a).requestId = a.requestId)
    (hobject : ∀ a, a.metaJson.isObject = true → (g a).metaJson.isObject = true) :
    RowsSound (Table.updateKey AuthorizationRow.id id g rows) where
  ids := by
    rw [map_updateKey hid]
    exact h.ids
  requests := by
    rw [map_updateKey fun a => Prod.ext (hrequest a).1 (hrequest a).2]
    exact h.requests
  objects a ha := by
    rcases Table.mem_updateKey.1 ha with ⟨x, hx, rfl⟩
    split
    · exact hobject x (h.objects x hx)
    · exact h.objects x hx

theorem RowChange.sound (h : RowChange rows rows') (hsound : RowsSound rows) :
    RowsSound rows' := by
  cases h with
  | insert row hnew hobject =>
      refine ⟨?_, ?_, fun a ha => ?_⟩
      · rw [List.map_append, List.nodup_append]
        refine ⟨hsound.ids, List.nodup_singleton _, ?_⟩
        rintro _ hx _ hy rfl
        rcases List.mem_map.1 hx with ⟨a, ha, hid⟩
        exact (hnew a ha).1 (hid.trans (List.mem_singleton.1 hy))
      · rw [List.map_append, List.nodup_append]
        refine ⟨hsound.requests, List.nodup_singleton _, ?_⟩
        rintro _ hx _ hy rfl
        rcases List.mem_map.1 hx with ⟨a, ha, heq⟩
        exact (hnew a ha).2 (Prod.mk.inj (heq.trans (List.mem_singleton.1 hy)))
      · rcases List.mem_append.1 ha with ha | ha
        · exact hsound.objects a ha
        · rw [List.mem_singleton.1 ha]
          exact hobject
  | capture hmem hopen apiKeyId model charged fields now =>
      exact hsound.updateKey (fun _ => rfl) (fun _ => ⟨rfl, rfl⟩)
        fun a ha => Json.isObject_merge ha fields
  | release id now =>
      exact hsound.updateKey (fun _ => rfl) (fun _ => ⟨rfl, rfl⟩) fun _ ha => ha
  | sweep id call authorization =>
      exact hsound.updateKey (fun _ => rfl) (fun _ => ⟨rfl, rfl⟩)
        fun a ha => Json.isObject_merge ha _

theorem RowsSound.rowChanges (hsound : RowsSound rows) (h : RowChanges rows rows') :
    RowsSound rows' := by
  induction h with
  | refl => exact hsound
  | tail _ hlast ih => exact hlast.sound ih

/-! ## Captured rows -/

/-- The metadata fields that say how a hold was priced. -/
def pricedKeys : List String := ["request_kind", "service_tier", "pricing_band"]

/-- The row `a` is the captured row `c`, possibly closed since. -/
structure SameCapture (c a : AuthorizationRow) : Prop where
  id : a.id = c.id
  tenantId : a.tenantId = c.tenantId
  requestId : a.requestId = c.requestId
  apiKeyId : a.apiKeyId = c.apiKeyId
  capturedMicrocredits : a.capturedMicrocredits = c.capturedMicrocredits
  status : a.status ≠ .authorized
  priced : ∀ key ∈ pricedKeys, a.metaJson.getStr key = c.metaJson.getStr key

theorem SameCapture.refl {c : AuthorizationRow} (hstatus : c.status ≠ .authorized) :
    SameCapture c c :=
  ⟨rfl, rfl, rfl, rfl, rfl, hstatus, fun _ _ => rfl⟩

variable {c a : AuthorizationRow}

theorem SameCapture.release (h : SameCapture c a) (now : DateTime) :
    SameCapture c (AuthorizationRow.release now a) :=
  ⟨h.id, h.tenantId, h.requestId, h.apiKeyId, h.capturedMicrocredits, nofun, h.priced⟩

theorem getStr_merge_reconcileMeta (hobject : a.metaJson.isObject = true) (call : BillingCall)
    (authorization : BillingAuthorizationRecord) {key : String} (hkey : key ∈ pricedKeys) :
    (a.metaJson.merge (reconcileMeta call authorization)).getStr key =
      a.metaJson.getStr key := by
  cases hmeta : a.metaJson with
  | obj fs =>
      rw [Json.getStr, Json.getStr, reconcileMeta, Json.get_merge, Json.get_ofFields]
      simp only [pricedKeys, List.mem_cons, List.not_mem_nil, or_false] at hkey
      rcases hkey with rfl | rfl | rfl <;> rfl
  | _ =>
      rw [hmeta] at hobject
      cases hobject

theorem SameCapture.sweep (h : SameCapture c a) (hobject : a.metaJson.isObject = true)
    (call : BillingCall) (authorization : BillingAuthorizationRecord) :
    SameCapture c
      (AuthorizationRow.reconcileRelease (reconcileMeta call authorization) call.now a) where
  id := h.id
  tenantId := h.tenantId
  requestId := h.requestId
  apiKeyId := h.apiKeyId
  capturedMicrocredits := h.capturedMicrocredits
  status := nofun
  priced key hkey :=
    (getStr_merge_reconcileMeta hobject call authorization hkey).trans (h.priced key hkey)

def Kept (c : AuthorizationRow) (rows : List AuthorizationRow) : Prop :=
  ∃ a ∈ rows, SameCapture c a

theorem Kept.updateKey_of_ne (h : Kept c rows) (hid : c.id ≠ id) :
    Kept c (Table.updateKey AuthorizationRow.id id g rows) := by
  rcases h with ⟨a, ha, hsame⟩
  refine ⟨a, Table.mem_updateKey.2 ⟨a, ha, if_neg ?_⟩, hsame⟩
  rw [hsame.id]
  exact hid

theorem Kept.updateKey (h : Kept c rows) (hg : ∀ a ∈ rows, SameCapture c a → SameCapture c (g a)) :
    Kept c (Table.updateKey AuthorizationRow.id id g rows) := by
  rcases h with ⟨a, ha, hsame⟩
  refine ⟨_, Table.mem_updateKey.2 ⟨a, ha, rfl⟩, ?_⟩
  split
  · exact hg a ha hsame
  · exact hsame

theorem RowsSound.eq_of_id (hsound : RowsSound rows) {b : AuthorizationRow} (ha : a ∈ rows)
    (hb : b ∈ rows) (hid : a.id = b.id) : a = b :=
  List.inj_on_of_nodup_map hsound.ids ha hb hid

theorem RowChange.kept (h : RowChange rows rows') (hsound : RowsSound rows) (hkept : Kept c rows) :
    Kept c rows' := by
  cases h with
  | insert row hnew hobject =>
      rcases hkept with ⟨a, ha, hsame⟩
      exact ⟨a, List.mem_append_left _ ha, hsame⟩
  | capture hmem hopen apiKeyId model charged fields now =>
      -- an open row is not the captured one
      rename_i row
      apply hkept.updateKey_of_ne
      rcases hkept with ⟨a, ha, hsame⟩
      intro hid
      obtain rfl := hsound.eq_of_id ha hmem (hsame.id.trans hid)
      exact hsame.status hopen
  | release id now => exact hkept.updateKey fun _ _ hsame => hsame.release now
  | sweep id call authorization =>
      exact hkept.updateKey fun a ha hsame => hsame.sweep (hsound.objects a ha) call authorization

theorem Kept.rowChanges (hkept : Kept c rows) (hsound : RowsSound rows)
    (h : RowChanges rows rows') : Kept c rows' := by
  induction h with
  | refl => exact hkept
  | tail hfirst hlast ih => exact hlast.kept (hsound.rowChanges hfirst) ih

theorem Kept.findAuthorization {db : Db} (hkept : Kept c db.authorizations)
    (hsound : RowsSound db.authorizations) :
    ∃ a, db.findAuthorization c.tenantId c.requestId = some a ∧ SameCapture c a := by
  rcases hkept with ⟨a, ha, hsame⟩
  cases hfind : db.findAuthorization c.tenantId c.requestId with
  | none =>
      have hnone := List.find?_eq_none.1 hfind a ha
      simp [hsame.tenantId, hsame.requestId] at hnone
  | some b =>
      rcases Db.findAuthorization_eq_some hfind with ⟨hb, htenant, hrequest⟩
      have heq : (a.tenantId, a.requestId) = (b.tenantId, b.requestId) := by
        rw [hsame.tenantId, hsame.requestId, htenant, hrequest]
      obtain rfl := List.inj_on_of_nodup_map hsound.requests ha hb heq
      exact ⟨a, rfl, hsame⟩

end CodexPool
