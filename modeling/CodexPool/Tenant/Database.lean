import CodexPool.Lib.Table
import CodexPool.Tenant.Pricing
import Mathlib.Logic.Function.Basic

/-!
# The credit tables and their transactions

The rows of the credit tables, and the statements that the billing operations
execute on them. `TxM` is a computation inside a database transaction: an error
rolls everything back, and a statement that fails inside the transaction leaves
it aborted, so that the statements after it fail and the commit does nothing.
-/

namespace CodexPool

open Saturating

inductive AuthorizationStatus where
  | authorized
  | captured
  | released
deriving DecidableEq, Repr

def AuthorizationStatus.asStr : AuthorizationStatus → String
  | authorized => "authorized"
  | captured => "captured"
  | released => "released"

inductive LedgerEventType where
  | authorizeHold
  | capture
  | release
  | adjust
  | recharge
  | checkin
deriving DecidableEq, Repr

/-- A row of `tenant_credit_authorizations`. -/
structure AuthorizationRow where
  id : Uuid
  tenantId : Uuid
  apiKeyId : Option Uuid
  requestId : String
  model : Option String
  reservedMicrocredits : I64
  capturedMicrocredits : I64
  status : AuthorizationStatus
  expiresAt : DateTime
  metaJson : Json
  createdAt : DateTime
  updatedAt : DateTime

/-- A row of `tenant_credit_ledger`. -/
structure LedgerRow where
  tenantId : Uuid
  apiKeyId : Option Uuid
  requestId : Option String
  eventType : LedgerEventType
  deltaMicrocredits : I64
  balanceAfterMicrocredits : I64
  inputTokens : Option I64
  outputTokens : Option I64
  model : Option String
  metaJson : Json
  createdAt : DateTime

/-- A row of `billing_sessions`. -/
structure BillingSessionRow where
  tenantId : Uuid
  sessionKey : String
  model : String
  pricingBand : String
  enteredBandAt : DateTime
  lastSeenAt : DateTime
  expiresAt : DateTime

/-- A row of `tenant_daily_checkins`. A date is a number of days. -/
structure DailyCheckinRow where
  tenantId : Uuid
  localDate : Int
  rewardMicrocredits : I64

/-- The credit tables. `saturated` is not a column: it records that the update
of a balance was cut off at the bounds of its integer type. -/
structure Db where
  tenants : List Uuid
  creditAccounts : Uuid → Option I64
  ledger : List LedgerRow
  authorizations : List AuthorizationRow
  sessions : List BillingSessionRow
  checkins : List DailyCheckinRow
  saturated : Bool

namespace Db

def upsertCreditAccount (db : Db) (tenantId : Uuid) (balance : I64) (clipped : Bool) :
    Option Db :=
  if tenantId ∈ db.tenants then
    some { db with
      creditAccounts := Function.update db.creditAccounts tenantId (some balance)
      saturated := db.saturated || clipped }
  else none

/-- The unique index on `(tenant_id, request_id)` where `request_id` is not
null. -/
def ledgerConflict (db : Db) (row : LedgerRow) : Bool :=
  row.requestId.isSome &&
    db.ledger.any fun r => r.tenantId = row.tenantId ∧ r.requestId = row.requestId

def appendLedger (db : Db) (row : LedgerRow) : Db :=
  { db with ledger := db.ledger ++ [row] }

def insertAuthorization (db : Db) (row : AuthorizationRow) : Option Db :=
  let conflict := db.authorizations.any fun r =>
    r.id = row.id ∨ r.tenantId = row.tenantId ∧ r.requestId = row.requestId
  if conflict || row.tenantId ∉ db.tenants then none
  else some { db with authorizations := db.authorizations ++ [row] }

def updateAuthorization (db : Db) (id : Uuid)
    (set : AuthorizationRow → AuthorizationRow) : Db :=
  { db with
    authorizations := Table.updateKey AuthorizationRow.id id set db.authorizations }

def findAuthorization (db : Db) (tenantId : Uuid) (requestId : String) :
    Option AuthorizationRow :=
  db.authorizations.find? fun r => r.tenantId = tenantId ∧ r.requestId = requestId

def upsertSession (db : Db) (row : BillingSessionRow) : Db :=
  let same (r : BillingSessionRow) : Bool :=
    r.tenantId = row.tenantId ∧ r.sessionKey = row.sessionKey
  if db.sessions.any same then
    { db with
      sessions := db.sessions.map fun r =>
        if same r then
          { row with
            enteredBandAt :=
              if r.pricingBand = row.pricingBand then r.enteredBandAt
              else row.enteredBandAt }
        else r }
  else { db with sessions := db.sessions ++ [row] }

def insertCheckin (db : Db) (row : DailyCheckinRow) : Option Db :=
  let conflict := db.checkins.any fun r =>
    r.tenantId = row.tenantId ∧ r.localDate = row.localDate
  if conflict || row.tenantId ∉ db.tenants then none
  else some { db with checkins := db.checkins ++ [row] }

theorem findAuthorization_eq_some {db : Db} {tenantId : Uuid} {requestId : String}
    {row : AuthorizationRow} (h : db.findAuthorization tenantId requestId = some row) :
    row ∈ db.authorizations ∧ row.tenantId = tenantId ∧ row.requestId = requestId := by
  have hkey := List.find?_some h
  simp only [decide_eq_true_eq] at hkey
  exact ⟨List.mem_of_find?_eq_some h, hkey⟩

theorem insertAuthorization_eq_some {db db' : Db} {row : AuthorizationRow} :
    db.insertAuthorization row = some db' ↔
      (∀ r ∈ db.authorizations, r.id ≠ row.id ∧
        ¬(r.tenantId = row.tenantId ∧ r.requestId = row.requestId)) ∧
      row.tenantId ∈ db.tenants ∧
      db' = { db with authorizations := db.authorizations ++ [row] } := by
  simp only [insertAuthorization, Bool.or_eq_true, List.any_eq_true,
    decide_eq_true_eq]
  constructor
  · intro h
    split at h
    · cases h
    · rename_i hc
      push Not at hc
      obtain ⟨hc, ht⟩ := hc
      refine ⟨fun r hr => ⟨(hc r hr).1, fun hk => (hc r hr).2 hk.1 hk.2⟩, ?_,
        (Option.some.inj h).symm⟩
      simpa using ht
  · rintro ⟨hc, ht, rfl⟩
    rw [if_neg]
    push Not
    exact ⟨fun r hr => ⟨(hc r hr).1, fun h₁ h₂ => (hc r hr).2 ⟨h₁, h₂⟩⟩, by simpa using ht⟩

theorem upsertSession_eq (db : Db) (row : BillingSessionRow) :
    ∃ s, db.upsertSession row = { db with sessions := s } := by
  simp only [upsertSession]
  split
  · exact ⟨_, rfl⟩
  · exact ⟨_, rfl⟩

theorem insertCheckin_eq_some {db db' : Db} {row : DailyCheckinRow}
    (h : db.insertCheckin row = some db') : ∃ c, db' = { db with checkins := c } := by
  simp only [insertCheckin] at h
  split at h
  · cases h
  · exact ⟨_, (Option.some.inj h).symm⟩

end Db

/-- An open transaction. -/
structure Tx where
  db : Db
  aborted : Bool

/-- A computation inside a transaction. -/
abbrev TxM (α : Type) := StateT Tx (Except String) α

namespace TxM

variable {α β : Type}

/-- A computation that does not touch the transaction. -/
def ofResult (r : Result α) : TxM α := fun tx =>
  match r with
  | .ok a => .ok (a, tx)
  | .error e => .error e

def fail (message : String) : TxM α := fun _ => .error message

/-- A `SELECT` statement; `context` is the text of its error. -/
def query (context : String) (f : Db → α) : TxM α := fun tx =>
  if tx.aborted then .error context else .ok (f tx.db, tx)

/-- A statement that changes rows, or violates a constraint. -/
def execute (context : String) (f : Db → Option Db) : TxM Unit := fun tx =>
  if tx.aborted then .error context
  else
    match f tx.db with
    | some db => .ok ((), { tx with db })
    | none => .error context

/-- The insertion of a ledger row. It reports whether the row went in: a
violation of the unique index is not an error here, but aborts the
transaction. -/
def insertLedger (row : LedgerRow) : TxM Bool := fun tx =>
  if tx.aborted then .error "failed to insert tenant credit ledger"
  else if tx.db.ledgerConflict row then .ok (false, { tx with aborted := true })
  else .ok (true, { tx with db := tx.db.appendLedger row })

/-- Runs a computation in a transaction of its own and commits it. An error
rolls the transaction back, and so does the commit of an aborted one. -/
def transaction (x : TxM α) (db : Db) : Result α × Db :=
  match x ⟨db, false⟩ with
  | .ok (a, tx) => (.ok a, if tx.aborted then db else tx.db)
  | .error e => (.error e, db)

variable {x : TxM α} {f : α → TxM β} {tx : Tx} {r : β × Tx}

theorem bind_eq_ok :
    (x >>= f) tx = .ok r ↔ ∃ a tx', x tx = .ok (a, tx') ∧ f a tx' = .ok r := by
  change (x tx >>= fun p => f p.1 p.2) = .ok r ↔ _
  cases x tx with
  | error e => simp [bind, Except.bind]
  | ok p =>
      obtain ⟨a, tx'⟩ := p
      simp [bind, Except.bind]

variable {a : α}

theorem bind_of_ok {tx' : Tx} (h : x tx = .ok (a, tx')) : (x >>= f) tx = f a tx' := by
  change (x tx >>= fun p => f p.1 p.2) = _
  rw [h]
  rfl

theorem bind_of_error {e : String} (h : x tx = .error e) : (x >>= f) tx = .error e := by
  change (x tx >>= fun p => f p.1 p.2) = _
  rw [h]
  rfl

variable {context : String} {db db' : Db}

theorem execute_of_some {f : Db → Option Db}
    (h : f db = some db') : execute context f ⟨db, false⟩ = .ok ((), ⟨db', false⟩) := by
  simp [execute, h]

theorem execute_of_none {f : Db → Option Db}
    (h : f db = none) : execute context f ⟨db, false⟩ = .error context := by
  simp [execute, h]

theorem pure_eq_ok {r : α × Tx} :
    (pure a : TxM α) tx = .ok r ↔ r = (a, tx) := by
  change Except.ok (a, tx) = .ok r ↔ _
  rw [Except.ok.injEq]
  exact eq_comm

theorem ofResult_of_ok {x : Result α} (h : x = .ok a) (tx : Tx) :
    ofResult x tx = .ok (a, tx) := by
  rw [h]
  rfl

theorem ofResult_bind_eq_ok {x : Result α} :
    (ofResult x >>= f) tx = .ok r ↔ ∃ a, x = .ok a ∧ f a tx = .ok r := by
  rw [bind_eq_ok]
  cases x with
  | error e => simp [ofResult]
  | ok a => simp [ofResult]

theorem fail_eq_ok {message : String} {r : α × Tx} :
    (fail message : TxM α) tx = .ok r ↔ False := by
  simp [fail]

theorem query_eq_ok {f : Db → α} {r : α × Tx} :
    query context f tx = .ok r ↔ tx.aborted = false ∧ r = (f tx.db, tx) := by
  unfold query
  cases tx.aborted <;> simp [eq_comm]

theorem query_bind_eq_ok {f : Db → α} {g : α → TxM β}
    :
    (query context f >>= g) tx = .ok r ↔
      tx.aborted = false ∧ g (f tx.db) tx = .ok r := by
  simp only [bind_eq_ok, query_eq_ok, Prod.mk.injEq]
  constructor
  · rintro ⟨a, tx', ⟨hab, rfl, rfl⟩, h⟩
    exact ⟨hab, h⟩
  · rintro ⟨hab, h⟩
    exact ⟨_, tx, ⟨hab, rfl, rfl⟩, h⟩

theorem execute_eq_ok {f : Db → Option Db} {r : Unit × Tx} :
    execute context f tx = .ok r ↔
      tx.aborted = false ∧ ∃ db, f tx.db = some db ∧ r = ((), ⟨db, false⟩) := by
  unfold execute
  cases hab : tx.aborted with
  | true => simp
  | false =>
      cases f tx.db with
      | none => simp
      | some db => simp [eq_comm]

theorem execute_bind_eq_ok {f : Db → Option Db} {g : Unit → TxM β} :
    (execute context f >>= g) tx = .ok r ↔
      tx.aborted = false ∧ ∃ db, f tx.db = some db ∧ g () ⟨db, false⟩ = .ok r := by
  simp only [bind_eq_ok, execute_eq_ok, Prod.mk.injEq]
  constructor
  · rintro ⟨a, tx', ⟨hab, db, hdb, -, rfl⟩, h⟩
    exact ⟨hab, db, hdb, h⟩
  · rintro ⟨hab, db, hdb, h⟩
    exact ⟨(), ⟨db, false⟩, ⟨hab, db, hdb, trivial, rfl⟩, h⟩

/-- A computation that reaches its end without an error. -/
def Succeeds (x : TxM α) (tx : Tx) : Prop := ∃ r, x tx = .ok r

theorem Succeeds.bind {tx' : Tx}
    (h : x tx = .ok (a, tx')) (hf : Succeeds (f a) tx') : Succeeds (x >>= f) tx := by
  obtain ⟨r, hr⟩ := hf
  exact ⟨r, (bind_of_ok h).trans hr⟩

theorem Succeeds.pure (a : α) (tx : Tx) : Succeeds (Pure.pure a) tx := ⟨(a, tx), rfl⟩

theorem Succeeds.transaction (h : Succeeds x ⟨db, false⟩) :
    ∃ a db', transaction x db = (.ok a, db') := by
  obtain ⟨⟨a, tx⟩, h⟩ := h
  exact ⟨a, _, by rw [TxM.transaction, h]⟩

theorem transaction_eq_ok :
    transaction x db = (.ok a, db') ↔
      ∃ tx, x ⟨db, false⟩ = .ok (a, tx) ∧ db' = if tx.aborted then db else tx.db := by
  unfold transaction
  cases x ⟨db, false⟩ with
  | error e => simp
  | ok p =>
      obtain ⟨b, tx⟩ := p
      simp only [Prod.mk.injEq, Except.ok.injEq]
      constructor
      · rintro ⟨rfl, rfl⟩
        exact ⟨tx, ⟨rfl, rfl⟩, rfl⟩
      · rintro ⟨tx', ⟨rfl, rfl⟩, rfl⟩
        exact ⟨rfl, rfl⟩

theorem transaction_error {e : String} (h : transaction x db = (.error e, db')) : db' = db := by
  unfold transaction at h
  cases hx : x ⟨db, false⟩ with
  | error e' =>
      rw [hx] at h
      exact (Prod.mk.inj h).2.symm
  | ok p =>
      rw [hx] at h
      cases (Prod.mk.inj h).1

end TxM

end CodexPool
