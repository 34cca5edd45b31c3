import CodexPool.Tenant.Reconcile

/-!
# The credit summary

The summary of a tenant adds up what the rows of its ledger say that it consumed since the
start of the month. A capture says so in its metadata; of the corrections, those that take
credits count and those that give them back do not. The summary agrees with the
authorizations after a run in which every correction asks for more than was captured, and
finds the authorization in a state in which the difference is what the tenant owes.
-/

namespace CodexPool

open Saturating HoldLedger

/-! ## The summary -/

/-- The cast of a number to `bigint`. -/
def toBigint (n : Int) : Option I64 :=
  if h : -9223372036854775808 ≤ n ∧ n ≤ 9223372036854775807 then some ⟨n, h.1, h.2⟩ else none

/-- The charge in the metadata of a row, `none` where the cast fails. -/
def LedgerRow.chargedMicrocredits (row : LedgerRow) : Option Int :=
  match row.metaJson.get "charged_microcredits" with
  | some (.num (.int n)) => (toBigint n).map (·.val)
  | some (.num (.float _)) => none
  | _ => some 0

/-- What the row takes from the balance, `none` where its negation overflows. -/
def LedgerRow.takenMicrocredits (row : LedgerRow) : Option Int :=
  if row.deltaMicrocredits < 0 then (toBigint (-row.deltaMicrocredits.val)).map (·.val)
  else some 0

/-- What a row says that the tenant consumed. -/
def LedgerRow.consumedMicrocredits (row : LedgerRow) : Option Int :=
  match row.eventType with
  | .capture => row.chargedMicrocredits.bind fun charged =>
    if 0 < charged then some charged else row.takenMicrocredits
  | .adjust => row.takenMicrocredits
  | _ => some 0

structure TenantCreditSummaryResponse where
  tenantId : Uuid
  balanceMicrocredits : I64
  todayConsumedMicrocredits : I64
  monthConsumedMicrocredits : I64

def Db.monthRows (db : Db) (tenantId : Uuid) (monthStart : DateTime) : List LedgerRow :=
  db.ledger.filter fun row => row.tenantId = tenantId ∧ monthStart ≤ row.createdAt

/-- `get_credit_summary`, with the starts of the day and of the month by the clock of the
database. -/
def getCreditSummary (dayStart monthStart : DateTime) (tenantId : Uuid) (db : Db) :
    Result TenantCreditSummaryResponse :=
  let rows := db.monthRows tenantId monthStart
  let sums : Option (I64 × I64) := do
    let consumed ← rows.mapM LedgerRow.consumedMicrocredits
    let today ← toBigint (((rows.zip consumed).filter fun scored =>
      dayStart ≤ scored.1.createdAt).map Prod.snd).sum
    let month ← toBigint consumed.sum
    some (today, month)
  match sums with
  | none => .error "failed to summarize tenant credit usage"
  | some (today, month) => .ok
    { tenantId
      balanceMicrocredits := (db.creditAccounts tenantId).getD 0
      todayConsumedMicrocredits := today
      monthConsumedMicrocredits := month }

/-! ## Sums of consumption -/

/-- What the rows consume together. -/
def consumedTotal (rows : List LedgerRow) : Option Int :=
  (rows.mapM LedgerRow.consumedMicrocredits).map List.sum

theorem consumedTotal_cons (row : LedgerRow) (rows : List LedgerRow) :
    consumedTotal (row :: rows) = row.consumedMicrocredits.bind fun n =>
      (consumedTotal rows).map fun total => n + total := by
  simp only [consumedTotal, List.mapM_cons]
  cases row.consumedMicrocredits with
  | none => rfl
  | some n => cases rows.mapM LedgerRow.consumedMicrocredits <;> simp

theorem consumedTotal_append {xs ys : List LedgerRow} {a b : Int}
    (hx : consumedTotal xs = some a) (hy : consumedTotal ys = some b) :
    consumedTotal (xs ++ ys) = some (a + b) := by
  induction xs generalizing a with
  | nil =>
      obtain rfl : 0 = a := Option.some.inj hx
      simpa using hy
  | cons row rows ih =>
      rw [consumedTotal_cons] at hx
      obtain ⟨n, hn, hrest⟩ := Option.bind_eq_some_iff.1 hx
      obtain ⟨total, htotal, rfl⟩ := Option.map_eq_some_iff.1 hrest
      rw [List.cons_append, consumedTotal_cons, hn, ih htotal]
      simp [add_assoc]

theorem consumedTotal_eq_zero {rows : List LedgerRow}
    (h : ∀ row ∈ rows, row.consumedMicrocredits = some 0) : consumedTotal rows = some 0 := by
  induction rows with
  | nil => rfl
  | cons row rows ih =>
      rw [List.forall_mem_cons] at h
      rw [consumedTotal_cons, h.1, ih h.2]
      rfl

theorem toBigint_of_mem {n : Int} (h₁ : -9223372036854775808 ≤ n)
    (h₂ : n ≤ 9223372036854775807) : ∃ x, toBigint n = some x ∧ x.val = n :=
  ⟨⟨n, h₁, h₂⟩, dif_pos ⟨h₁, h₂⟩, rfl⟩

theorem val_of_toBigint {n : Int} {x : I64} (h : toBigint n = some x) : x.val = n := by
  obtain ⟨_, hx⟩ := Option.dite_none_right_eq_some.1 h
  exact congrArg Bounded.val (Option.some.inj hx).symm

theorem LedgerRow.takenMicrocredits_nonneg {row : LedgerRow} {n : Int}
    (h : row.takenMicrocredits = some n) : 0 ≤ n := by
  unfold takenMicrocredits at h
  split at h
  · next hneg =>
      have hval : row.deltaMicrocredits.val < 0 := hneg
      obtain ⟨x, hx, rfl⟩ := Option.map_eq_some_iff.1 h
      rw [val_of_toBigint hx]
      omega
  · rw [← Option.some.inj h]

theorem LedgerRow.consumedMicrocredits_nonneg {row : LedgerRow} {n : Int}
    (h : row.consumedMicrocredits = some n) : 0 ≤ n := by
  unfold consumedMicrocredits at h
  split at h
  · obtain ⟨charged, -, h⟩ := Option.bind_eq_some_iff.1 h
    split at h
    · next hpos => exact Option.some.inj h ▸ le_of_lt hpos
    · exact takenMicrocredits_nonneg h
  · exact takenMicrocredits_nonneg h
  · rw [← Option.some.inj h]

theorem sum_filter_zip_le {rows : List LedgerRow} {consumed : List Int}
    (h : rows.mapM LedgerRow.consumedMicrocredits = some consumed) (p : LedgerRow × Int → Bool) :
    0 ≤ (((rows.zip consumed).filter p).map Prod.snd).sum ∧
      (((rows.zip consumed).filter p).map Prod.snd).sum ≤ consumed.sum := by
  induction rows generalizing consumed with
  | nil => simp_all
  | cons row rows ih =>
      simp only [List.mapM_cons, Option.bind_eq_bind, Option.pure_def,
        Option.bind_eq_some_iff, Option.some.injEq] at h
      obtain ⟨n, hn, rest, hrest, rfl⟩ := h
      have hpos := LedgerRow.consumedMicrocredits_nonneg hn
      obtain ⟨hlow, hhigh⟩ := ih hrest
      rw [List.zip_cons_cons, List.filter_cons]
      split <;> simp only [List.map_cons, List.sum_cons] <;> omega

/-- The summary of rows whose consumption fits. -/
theorem getCreditSummary_of_consumed (dayStart : DateTime) {monthStart : DateTime} {t : Uuid}
    {db : Db}
    {total : Int} (h : consumedTotal (db.monthRows t monthStart) = some total)
    (hfit : total ≤ 9223372036854775807) :
    ∃ summary, getCreditSummary dayStart monthStart t db = .ok summary ∧
      summary.monthConsumedMicrocredits.val = total ∧
      summary.balanceMicrocredits = db.balance t := by
  obtain ⟨consumed, hconsumed, rfl⟩ := Option.map_eq_some_iff.1 h
  obtain ⟨hlow, hhigh⟩ := sum_filter_zip_le hconsumed fun scored =>
    decide (dayStart ≤ scored.1.createdAt)
  obtain ⟨today, htoday, -⟩ := toBigint_of_mem (by omega) (hhigh.trans hfit)
  obtain ⟨month, hmonth, hval⟩ := toBigint_of_mem (by omega) hfit
  refine ⟨⟨t, db.balance t, today, month⟩, ?_, hval, rfl⟩
  simp only [getCreditSummary, hconsumed, htoday, hmonth, Option.bind_eq_bind, Option.bind_some]
  rfl

/-! ## What the operations append -/

namespace TxM

variable {α β : Type} {P : LedgerRow → Prop}

/-- The computation appends rows with the property to the ledger and does nothing else
to it. -/
def Appends (P : LedgerRow → Prop) (x : TxM α) : Prop :=
  ∀ tx r, x tx = .ok r → ∃ rows, r.2.db.ledger = tx.db.ledger ++ rows ∧ ∀ row ∈ rows, P row

theorem Appends.of_ledger_eq {x : TxM α}
    (h : ∀ tx r, x tx = .ok r → r.2.db.ledger = tx.db.ledger) : x.Appends P :=
  fun tx r hr => ⟨[], by rw [h tx r hr, List.append_nil], by simp⟩

theorem Appends.pure (a : α) : Appends P (pure a : TxM α) :=
  .of_ledger_eq fun tx r h => by rw [pure_eq_ok.1 h]

theorem Appends.fail (message : String) : Appends P (fail message : TxM α) :=
  fun _ _ h => (fail_eq_ok.1 h).elim

theorem Appends.ofResult (x : Result α) : Appends P (ofResult x) := by
  refine .of_ledger_eq fun tx r h => ?_
  cases x with
  | error e => cases h
  | ok a => cases h; rfl

theorem Appends.query (context : String) (f : Db → α) : Appends P (query context f) :=
  .of_ledger_eq fun tx r h => by rw [(query_eq_ok.1 h).2]

theorem Appends.execute {context : String} {f : Db → Option Db}
    (hf : ∀ db db', f db = some db' → db'.ledger = db.ledger) :
    Appends P (execute context f) := by
  refine .of_ledger_eq fun tx r h => ?_
  obtain ⟨-, db, hdb, rfl⟩ := execute_eq_ok.1 h
  exact hf _ _ hdb

theorem Appends.insertLedger {row : LedgerRow} (hrow : P row) :
    Appends P (insertLedger row) := by
  intro tx r h
  unfold TxM.insertLedger at h
  split at h
  · cases h
  split at h
  · cases h
    exact ⟨[], by simp, by simp⟩
  · cases h
    exact ⟨[row], rfl, by simpa using hrow⟩

theorem Appends.bind {x : TxM α} {f : α → TxM β} (hx : x.Appends P)
    (hf : ∀ a, (f a).Appends P) : (x >>= f).Appends P := by
  intro tx r h
  obtain ⟨a, tx', ha, hr⟩ := bind_eq_ok.1 h
  obtain ⟨rows, hrows, hall⟩ := hx tx (a, tx') ha
  obtain ⟨rows', hrows', hall'⟩ := hf a tx' r hr
  refine ⟨rows ++ rows', by rw [hrows', hrows, List.append_assoc], fun row hrow => ?_⟩
  exact (List.mem_append.1 hrow).elim (hall row) (hall' row)

theorem Appends.transaction {x : TxM α} (hx : x.Appends P) (db : Db) :
    ∃ rows, (transaction x db).2.ledger = db.ledger ++ rows ∧ ∀ row ∈ rows, P row := by
  unfold TxM.transaction
  cases hr : x ⟨db, false⟩ with
  | error e => exact ⟨[], by simp, by simp⟩
  | ok r =>
      obtain ⟨rows, hrows, hall⟩ := hx _ r hr
      simp only
      split
      · exact ⟨[], by simp, by simp⟩
      · exact ⟨rows, hrows, hall⟩

end TxM

section

variable {P : LedgerRow → Prop}

theorem applyCreditDeltaInner_appends {p : CreditDeltaParams}
    (hp : ∀ balance, P (p.ledgerRow balance)) : (applyCreditDeltaInner p).Appends P := by
  unfold applyCreditDeltaInner
  refine .bind (.query _ _) fun balance => ?_
  simp only
  split
  · exact .fail _
  · refine .bind (.execute fun db db' h => ?_) fun _ =>
      .bind (.insertLedger (hp _)) fun inserted => .pure _
    simp only [Db.upsertCreditAccount] at h
    split at h <;> cases h
    rfl

theorem fetchAuthorizationForUpdate_appends (t : Uuid) (requestId : String) :
    (fetchAuthorizationForUpdate t requestId).Appends P := by
  rw [fetchAuthorizationForUpdate_eq]
  exact .query _ _

theorem fetchSession_appends (call : BillingCall) (t : Uuid) (sessionKey : Option String) :
    (fetchSession call t sessionKey).Appends P := by
  cases sessionKey with
  | none => exact .pure _
  | some key =>
      simp only [fetchSession, fetchBillingSessionForUpdate]
      split
      · exact .pure _
      · exact .query _ _

theorem touchSession_appends (t : Uuid) (sessionKey : Option String) (model : String)
    (band : BillingPricingBand) (now : DateTime) :
    (touchSession t sessionKey model band now).Appends P :=
  .of_ledger_eq fun tx r h => by
    obtain ⟨s, hs⟩ := touchSession_eq_ok h
    rw [hs]

theorem updateAuthorization_appends (context : String) (id : Uuid)
    (set : AuthorizationRow → AuthorizationRow) :
    (TxM.execute context fun db => some (db.updateAuthorization id set)).Appends P :=
  .execute fun db db' h => by
    rw [← Option.some.inj h]
    rfl

def LedgerRow.ConsumesNothing (now : DateTime) (row : LedgerRow) : Prop :=
  row.createdAt = now ∧ row.consumedMicrocredits = some 0

theorem reconcilePosting_consumesNothing (now : DateTime)
    (authorization : BillingAuthorizationRecord) (balance : I64) :
    ((reconcilePosting now authorization).ledgerRow balance).ConsumesNothing now := by
  refine ⟨rfl, if_neg (not_lt.2 ?_)⟩
  exact le_max_right _ _

end

/-- The operation is not a capture. -/
def BillingOp.uncharged : BillingOp → Bool
  | .capture _ _ => false
  | _ => true

def BillingOp.now : BillingOp → DateTime
  | .recharge call _ _ => call.now
  | .checkin call _ => call.now
  | .authorize call _ => call.now
  | .capture call _ => call.now
  | .release call _ => call.now
  | .reconcileOnce call _ => call.now

theorem adminRechargeTenant_appends (call : BillingCall) (t : Uuid) (req : AdminRechargeRequest)
    (db : Db) : ∃ rows, (adminRechargeTenant call t req db).2.ledger = db.ledger ++ rows ∧
      ∀ row ∈ rows, row.ConsumesNothing call.now := by
  unfold adminRechargeTenant
  split
  · exact ⟨[], by simp, by simp⟩
  · exact TxM.Appends.transaction
      (.bind (applyCreditDeltaInner_appends fun _ => ⟨rfl, rfl⟩) fun _ => .pure _) db

theorem dailyCheckin_appends (call : BillingCall) (t : Uuid) (db : Db) :
    ∃ rows, (dailyCheckin call t db).2.ledger = db.ledger ++ rows ∧
      ∀ row ∈ rows, row.ConsumesNothing call.now := by
  refine TxM.Appends.transaction (.bind (.query _ _) fun claimed => ?_) db
  split
  · exact .fail _
  · refine .bind (.execute fun db db' h => ?_) fun _ =>
      .bind (applyCreditDeltaInner_appends fun _ => ⟨rfl, rfl⟩) fun _ => .pure _
    obtain ⟨c, rfl⟩ := Db.insertCheckin_eq_some h
    rfl

theorem billingAuthorize_appends (call : BillingCall) (req : BillingAuthorizeRequest) (db : Db) :
    ∃ rows, (billingAuthorize call req db).2.ledger = db.ledger ++ rows ∧
      ∀ row ∈ rows, row.ConsumesNothing call.now := by
  unfold billingAuthorize
  simp only
  split
  · exact ⟨[], by simp, by simp⟩
  split
  · exact ⟨[], by simp, by simp⟩
  split
  · exact ⟨[], by simp, by simp⟩
  refine TxM.Appends.transaction ?_ db
  unfold billingAuthorizeTx
  refine .bind (fetchAuthorizationForUpdate_appends _ _) fun existing => ?_
  cases existing with
  | some existing =>
      simp only
      split
      · exact .fail _
      · exact .bind (.query _ _) fun _ => .pure _
  | none =>
      refine .bind (fetchSession_appends _ _ _) fun _ => .bind (.ofResult _) fun decision =>
        .bind (applyCreditDeltaInner_appends fun _ => ⟨rfl, rfl⟩) fun _ =>
          .bind (.execute fun db db' h => ?_) fun _ =>
            .bind (touchSession_appends _ _ _ _ _) fun _ => .pure _
      obtain ⟨-, -, rfl⟩ := Db.insertAuthorization_eq_some.1 h
      rfl

theorem billingRelease_appends (call : BillingCall) (req : BillingReleaseRequest) (db : Db) :
    ∃ rows, (billingRelease call req db).2.ledger = db.ledger ++ rows ∧
      ∀ row ∈ rows, row.ConsumesNothing call.now := by
  unfold billingRelease
  simp only
  split
  · exact ⟨[], by simp, by simp⟩
  refine TxM.Appends.transaction ?_ db
  unfold billingReleaseTx
  refine .bind (fetchAuthorizationForUpdate_appends _ _) fun found => ?_
  cases found with
  | none => exact .fail _
  | some authorization =>
      simp only
      split
      · exact .bind (.query _ _) fun _ => .pure _
      split
      · exact .bind (applyCreditDeltaInner_appends fun _ => ⟨rfl, rfl⟩) fun _ =>
          .bind (updateAuthorization_appends _ _ _) fun _ => .pure _
      · exact .bind (.query _ _) fun _ =>
          .bind (updateAuthorization_appends _ _ _) fun _ => .pure _

theorem reconcileRows_appends (call : BillingCall) (rows : List PgRow)
    (stats : BillingReconcileStats) :
    (reconcileRows call stats rows).Appends (LedgerRow.ConsumesNothing call.now) := by
  induction rows generalizing stats with
  | nil => exact .pure _
  | cons row rows ih =>
      refine .bind ?_ ih
      unfold reconcileRow
      refine .bind (.ofResult _) fun authorization => ?_
      simp only
      split
      · exact .bind (applyCreditDeltaInner_appends (reconcilePosting_consumesNothing _ _))
          fun _ => .bind (updateAuthorization_appends _ _ _) fun _ => .pure _
      · exact .bind (updateAuthorization_appends _ _ _) fun _ => .pure _

theorem BillingOp.appends {op : BillingOp} (hop : op.uncharged = true) (db : Db) :
    ∃ rows, (op.run db).ledger = db.ledger ++ rows ∧
      ∀ row ∈ rows, row.ConsumesNothing op.now := by
  cases op <;> simp only [run, now]
  case recharge call t req => exact adminRechargeTenant_appends call t req db
  case checkin call t => exact dailyCheckin_appends call t db
  case authorize call req => exact billingAuthorize_appends call req db
  case capture => cases hop
  case release call req => exact billingRelease_appends call req db
  case reconcileOnce call req =>
      exact TxM.Appends.transaction
        (.bind (.query _ _) fun rows => reconcileRows_appends call rows {}) db

end CodexPool
