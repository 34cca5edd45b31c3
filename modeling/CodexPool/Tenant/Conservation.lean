import CodexPool.Tenant.Refinement

/-!
# Conservation of credits

A run of the billing operations, in any order and with any repetition, keeps
the balance of a tenant at what was granted to it less the net debits of its
authorizations, and equal to the sum of its ledger.
-/

namespace CodexPool

open Saturating HoldLedger

/-- A call of a billing operation. -/
inductive BillingOp where
  | recharge (call : BillingCall) (tenantId : Uuid) (req : AdminRechargeRequest)
  | checkin (call : BillingCall) (tenantId : Uuid)
  | authorize (call : BillingCall) (req : BillingAuthorizeRequest)
  | capture (call : BillingCall) (req : BillingCaptureRequest)
  | release (call : BillingCall) (req : BillingReleaseRequest)
  | reconcileOnce (call : BillingCall) (req : BillingReconcileRequest)

namespace BillingOp

/-- The tables after an operation. -/
def run : BillingOp → Db → Db
  | recharge call t req, db => (adminRechargeTenant call t req db).2
  | checkin call t, db => (dailyCheckin call t db).2
  | authorize call req, db => (billingAuthorize call req db).2
  | capture call req, db => (billingCapture call req db).2
  | release call req, db => (billingRelease call req db).2
  | reconcileOnce call req, db => (billingReconcileOnce call req db).2

/-- What an operation grants to a tenant: the amount of a recharge and the
reward of a check-in that it reports as successful. -/
def granted (t : Uuid) : BillingOp → Db → Int
  | recharge call t' req, db =>
    match (adminRechargeTenant call t' req db).1 with
    | .ok r => if t' = t then r.amountMicrocredits.val else 0
    | .error _ => 0
  | checkin call t', db =>
    match (dailyCheckin call t' db).1 with
    | .ok r => if t' = t then r.rewardMicrocredits.val else 0
    | .error _ => 0
  | _, _ => 0

end BillingOp

def runOps : List BillingOp → Db → Db
  | [], db => db
  | op :: ops, db => runOps ops (op.run db)

def creditsGranted (t : Uuid) : List BillingOp → Db → Int
  | [], _ => 0
  | op :: ops, db => op.granted t db + creditsGranted t ops (op.run db)

/-- What an authorization takes from the balance. -/
def AuthorizationRow.netDebit (a : AuthorizationRow) : Int :=
  match a.status with
  | .authorized => a.reservedMicrocredits.val
  | .captured => max a.reservedMicrocredits.val a.capturedMicrocredits.val
  | .released => a.capturedMicrocredits.val

namespace Db

def netDebits (db : Db) (t : Uuid) : Int :=
  ((db.authorizations.filter (·.tenantId = t)).map AuthorizationRow.netDebit).sum

def ledgerSum (db : Db) (t : Uuid) : Int :=
  ((db.ledger.filter (·.tenantId = t)).map (·.deltaMicrocredits.val)).sum

/-- The sum of the ledger rows that belong to an authorization. -/
def authorizationTotal (db : Db) (id : Uuid) : Int :=
  ((db.ledger.filter (·.authorizationId = some id)).map (·.deltaMicrocredits.val)).sum

/-- Tables in which nothing was posted yet. -/
structure Fresh (db : Db) : Prop where
  ledger : db.ledger = []
  authorizations : db.authorizations = []
  saturated : db.saturated = false
  balance : ∀ t b, db.creditAccounts t = some b → b = 0

theorem net_hold (a : AuthorizationRow) : a.hold.net = a.netDebit := by
  cases hst : a.status <;>
    simp [Hold.net, AuthorizationRow.hold, AuthorizationRow.netDebit, hst,
      AuthorizationStatus.phase]

theorem netDebits_eq_debited (db : Db) (t : Uuid) :
    db.netDebits t = db.book.debited t := by
  simp only [netDebits, book, Book.debited, Table.sumOver, List.filter_map,
    List.map_map]
  refine congrArg List.sum (List.map_congr_left fun a _ => ?_)
  exact (net_hold a).symm

theorem ledgerSum_eq_total (db : Db) (t : Uuid) :
    db.ledgerSum t = db.book.total t := by
  simp only [ledgerSum, book, Book.total, Table.sumOver, List.filter_map, List.map_map]
  rfl

theorem authorizationTotal_eq_totalOf (db : Db) (id : Uuid) :
    db.authorizationTotal id = db.book.totalOf id := by
  simp only [authorizationTotal, book, Book.totalOf, Table.sumOver, List.filter_map,
    List.map_map]
  rfl

end Db

/-! ## A failed operation changes nothing -/

variable {call : BillingCall} {db db' : Db} {e : String}

theorem adminRechargeTenant_error {t : Uuid} {req : AdminRechargeRequest}
    (h : adminRechargeTenant call t req db = (.error e, db')) : db' = db := by
  unfold adminRechargeTenant at h
  split at h
  · exact (Prod.mk.inj h).2.symm
  · exact TxM.transaction_error h

theorem billingAuthorize_error {req : BillingAuthorizeRequest}
    (h : billingAuthorize call req db = (.error e, db')) : db' = db := by
  unfold billingAuthorize at h
  simp only at h
  split at h
  · exact (Prod.mk.inj h).2.symm
  split at h
  · exact (Prod.mk.inj h).2.symm
  split at h
  · exact (Prod.mk.inj h).2.symm
  · exact TxM.transaction_error h

theorem billingCapture_error {req : BillingCaptureRequest}
    (h : billingCapture call req db = (.error e, db')) : db' = db := by
  unfold billingCapture at h
  simp only at h
  split at h
  · exact (Prod.mk.inj h).2.symm
  split at h
  · exact (Prod.mk.inj h).2.symm
  · exact TxM.transaction_error h

theorem billingRelease_error {req : BillingReleaseRequest}
    (h : billingRelease call req db = (.error e, db')) : db' = db := by
  unfold billingRelease at h
  simp only at h
  split at h
  · exact (Prod.mk.inj h).2.symm
  · exact TxM.transaction_error h

/-! ## Runs -/

/-- Every operation makes moves on the book that grant exactly what it reports
as granted. -/
theorem BillingOp.simulates (op : BillingOp) (hwf : db.book.WellFormed) :
    ∃ ms, Simulates db ms (op.run db) ∧
      ∀ t, HoldLedger.granted t ms = op.granted t db := by
  cases op with
  | recharge call t' req =>
      rcases hr : adminRechargeTenant call t' req db with ⟨⟨e⟩ | ⟨r⟩, db'⟩
      all_goals have hrun : (recharge call t' req).run db = db' := congrArg Prod.snd hr
      · obtain rfl := adminRechargeTenant_error hr
        refine ⟨[], hrun.symm ▸ Simulates.refl db', fun t => ?_⟩
        simp [BillingOp.granted, hr, HoldLedger.granted]
      · refine ⟨[.grant t' r.amountMicrocredits.val],
          hrun.symm ▸ adminRechargeTenant_simulates hr, fun t => ?_⟩
        simp [BillingOp.granted, hr, HoldLedger.granted]
  | checkin call t' =>
      rcases hr : dailyCheckin call t' db with ⟨⟨e⟩ | ⟨r⟩, db'⟩
      all_goals have hrun : (checkin call t').run db = db' := congrArg Prod.snd hr
      · obtain rfl := TxM.transaction_error hr
        refine ⟨[], hrun.symm ▸ Simulates.refl db', fun t => ?_⟩
        simp [BillingOp.granted, hr, HoldLedger.granted]
      · refine ⟨[.grant t' r.rewardMicrocredits.val],
          hrun.symm ▸ dailyCheckin_simulates hr, fun t => ?_⟩
        simp [BillingOp.granted, hr, HoldLedger.granted]
  | authorize call req =>
      rcases hr : billingAuthorize call req db with ⟨⟨e⟩ | ⟨r⟩, db'⟩
      all_goals have hrun : (authorize call req).run db = db' := congrArg Prod.snd hr
      · obtain rfl := billingAuthorize_error hr
        exact ⟨[], hrun.symm ▸ Simulates.refl db', fun _ => rfl⟩
      · rcases billingAuthorize_simulates hr with hsim | hsim
        · exact ⟨_, hrun.symm ▸ hsim, fun _ => rfl⟩
        · exact ⟨_, hrun.symm ▸ hsim, fun _ => rfl⟩
  | capture call req =>
      rcases hr : billingCapture call req db with ⟨⟨e⟩ | ⟨r⟩, db'⟩
      all_goals have hrun : (capture call req).run db = db' := congrArg Prod.snd hr
      · obtain rfl := billingCapture_error hr
        exact ⟨[], hrun.symm ▸ Simulates.refl db', fun _ => rfl⟩
      · rcases billingCapture_simulates hwf hr with hsim | ⟨id, c, hsim⟩
        · exact ⟨_, hrun.symm ▸ hsim, fun _ => rfl⟩
        · exact ⟨_, hrun.symm ▸ hsim, fun _ => rfl⟩
  | release call req =>
      rcases hr : billingRelease call req db with ⟨⟨e⟩ | ⟨r⟩, db'⟩
      all_goals have hrun : (release call req).run db = db' := congrArg Prod.snd hr
      · obtain rfl := billingRelease_error hr
        exact ⟨[], hrun.symm ▸ Simulates.refl db', fun _ => rfl⟩
      · rcases billingRelease_simulates hwf hr with hsim | ⟨id, hsim⟩
        · exact ⟨_, hrun.symm ▸ hsim, fun _ => rfl⟩
        · exact ⟨_, hrun.symm ▸ hsim, fun _ => rfl⟩
  | reconcileOnce call req =>
      rcases hr : billingReconcileOnce call req db with ⟨⟨e⟩ | ⟨r⟩, db'⟩
      all_goals have hrun : (reconcileOnce call req).run db = db' :=
        congrArg Prod.snd hr
      · obtain rfl := TxM.transaction_error hr
        exact ⟨[], hrun.symm ▸ Simulates.refl db', fun _ => rfl⟩
      · exact ⟨_, hrun.symm ▸ billingReconcileOnce_simulates hwf hr,
          fun t => granted_map_close t _ AuthorizationRow.id⟩

/-- The moves of a whole run. -/
theorem runOps_simulates (ops : List BillingOp) (hs : db.book.Sound) :
    ∃ ms, Simulates db ms (runOps ops db) ∧
      ∀ t, HoldLedger.granted t ms = creditsGranted t ops db := by
  induction ops generalizing db with
  | nil => exact ⟨[], Simulates.refl db, fun _ => rfl⟩
  | cons op ops ih =>
      obtain ⟨ms, hsim, hgr⟩ := op.simulates hs.toWellFormed
      obtain ⟨ms', hsim', hgr'⟩ := ih (hsim.run.sound hs)
      refine ⟨ms ++ ms', hsim.trans hsim', fun t => ?_⟩
      rw [granted_append, hgr, hgr', creditsGranted]

theorem Db.Fresh.sound (h : db.Fresh) : db.book.Sound := by
  constructor
  · constructor <;> simp [Db.book, h.ledger, h.authorizations]
  · simp [Db.book, h.authorizations]
  · simp [Db.book, h.authorizations]

theorem Db.Fresh.balanced (h : db.Fresh) : db.Balanced := by
  have hzero : ∀ t, db.balance t = 0 := by
    intro t
    unfold Db.balance
    cases hb : db.creditAccounts t with
    | none => rfl
    | some b => exact h.balance t b hb
  constructor
  · intro t
    rw [hzero, I64.val_zero]
  · intro _ t
    rw [hzero, I64.val_zero, Db.book, h.ledger]
    rfl

theorem Db.Fresh.keyed (h : db.Fresh) : db.Keyed := by
  constructor <;> simp [h.ledger, h.authorizations]

/-- After every run from fresh tables, and as long as no balance was cut off at
the bounds of its type, the balance of a tenant is not negative, equals the
credits granted to it less the net debits of its authorizations, and equals the
sum of its ledger. -/
theorem balance_conservation {db₀ : Db} (h₀ : db₀.Fresh) (ops : List BillingOp)
    (t : Uuid) {b : I64} (hb : (runOps ops db₀).creditAccounts t = some b)
    (hsat : (runOps ops db₀).saturated = false) :
    0 ≤ b.val ∧
      b.val = creditsGranted t ops db₀ - (runOps ops db₀).netDebits t ∧
      b.val = (runOps ops db₀).ledgerSum t := by
  obtain ⟨ms, hsim, hgr⟩ := runOps_simulates ops h₀.sound
  obtain ⟨hnn, htot⟩ := hsim.balanced h₀.balanced
  have hbal : (runOps ops db₀).balance t = b := by rw [Db.balance, hb]; rfl
  have hnn := hnn t
  have htot := htot hsat t
  have hcons := hsim.run.conservation h₀.sound.toWellFormed (h₀.sound.uncapturedAt t)
  have hzero : db₀.book.total t + db₀.book.debited t = 0 := by
    rw [Db.book, h₀.ledger, h₀.authorizations]
    rfl
  rw [hbal] at hnn htot
  rw [hzero, hgr] at hcons
  rw [Db.netDebits_eq_debited, Db.ledgerSum_eq_total]
  exact ⟨hnn, by omega, htot⟩

/-! A tenant is granted 1000, reserves 100 and is charged 60. -/

def sampleKey : Uuid := ⟨"0c9b6f1a-3d57-4e8a-b2c4-5f8e7d6a1b22"⟩

def sampleGroup : Uuid := ⟨"51d8e0c7-8a2f-4b6d-9c13-e7f4a0b92d44"⟩

def sampleCall (now : DateTime) (newId : Uuid) : BillingCall :=
  { now, sessionNow := now, newId
    tables :=
      { modelPricingOverrides := [⟨"gpt-5.4", "default", 1000000, 100000, 2000000, true⟩]
        openaiModelsCatalog := [], billingPricingRules := []
        apiKeys := [(sampleKey, sampleGroup)]
        apiKeyGroups := [⟨sampleGroup, true, true, 1000000, 1000000, 1000000, none⟩]
        apiKeyGroupModelPolicies := [] }
    env := ⟨none, none, none, none, none⟩
    rfc3339 := fun _ => "", formatDate := fun _ => "", sha256Prefix := fun _ => 0 }

def sampleTenant : Uuid := ⟨"2b6e2c9e-64a5-4f0c-9d5e-0a5c7d1f3b11"⟩

def sampleHold : Uuid := ⟨"7f0d4a52-9b1e-4c4b-8f7e-6a1f0c2d9e33"⟩

def sampleDb : Db :=
  { tenants := [sampleTenant]
    creditAccounts := fun t => if t = sampleTenant then some 0 else none
    ledger := [], authorizations := [], sessions := [], checkins := []
    saturated := false }

def sampleAuthorize (reserved : I64) : BillingAuthorizeRequest :=
  { tenantId := sampleTenant, apiKeyId := none, requestId := "req-1"
    traceRequestId := none, model := "gpt-5.4", serviceTier := none
    sessionKey := none, requestKind := none, reservedMicrocredits := reserved
    ttlSec := none, isStream := false }

def sampleCapture (inputTokens : I64) : BillingCaptureRequest :=
  { tenantId := sampleTenant, apiKeyId := none, requestId := "req-1"
    model := "gpt-5.4", serviceTier := none, sessionKey := none, requestKind := none
    inputTokens, cachedInputTokens := 0, outputTokens := 0, reasoningTokens := 0
    isStream := false }

def sampleRun : List BillingOp :=
  [.recharge (sampleCall 0 sampleTenant) sampleTenant ⟨1000, none⟩,
    .authorize (sampleCall 1 sampleHold) (sampleAuthorize 100),
    .capture (sampleCall 2 sampleTenant) (sampleCapture 60)]

theorem sampleDb_fresh : sampleDb.Fresh where
  ledger := rfl
  authorizations := rfl
  saturated := rfl
  balance := by
    intro t b h
    simp only [sampleDb] at h
    split at h
    · exact (Option.some.inj h).symm
    · cases h

theorem balance_conservation_sampleRun :
    (900 : I64).val =
      creditsGranted sampleTenant sampleRun sampleDb -
        (runOps sampleRun sampleDb).netDebits sampleTenant :=
  (balance_conservation sampleDb_fresh sampleRun sampleTenant (b := 900)
    (by decide +kernel) (by decide +kernel)).2.1

end CodexPool
