import CodexPool.Lib.HoldLedger
import CodexPool.Tenant.Billing

/-!
# The credit tables as a book of holds

`Db.book` reads the ledger as the entries and the authorizations as the holds
of a book. The lemmas here say, for each billing operation, what it does to the
tables when it succeeds, and from that which moves it makes on the book.
-/

namespace CodexPool

open Saturating HoldLedger

def LedgerRow.authorizationId (row : LedgerRow) : Option Uuid :=
  (row.metaJson.getStr "authorization_id").map Uuid.mk

def LedgerRow.entry (row : LedgerRow) : Entry Uuid Uuid :=
  ⟨row.tenantId, row.authorizationId, row.deltaMicrocredits.val⟩

def AuthorizationStatus.phase : AuthorizationStatus → Phase
  | authorized => .held
  | captured => .settled
  | released => .closed

def AuthorizationRow.hold (row : AuthorizationRow) : Hold Uuid Uuid :=
  ⟨row.id, row.tenantId, row.reservedMicrocredits.val, row.capturedMicrocredits.val,
    row.status.phase⟩

def Db.book (db : Db) : Book Uuid Uuid :=
  ⟨db.ledger.map LedgerRow.entry, db.authorizations.map AuthorizationRow.hold⟩

/-! ## Reading rows -/

def AuthorizationRow.record (row : AuthorizationRow) : BillingAuthorizationRecord :=
  { id := row.id, tenantId := row.tenantId, requestId := row.requestId
    apiKeyId := row.apiKeyId, model := row.model
    reservedMicrocredits := row.reservedMicrocredits
    capturedMicrocredits := row.capturedMicrocredits
    status := row.status, expiresAt := row.expiresAt, metaJson := some row.metaJson }

theorem authorizationRecord_authorizationColumns (row : AuthorizationRow) :
    PgRow.authorizationRecord ⟨authorizationColumns, row⟩ = .ok row.record := rfl

/-- The transactions read an authorization as it is stored. -/
theorem fetchAuthorizationForUpdate_eq (tenantId : Uuid) (requestId : String) :
    fetchAuthorizationForUpdate tenantId requestId =
      TxM.query "failed to query billing authorization" fun db =>
        (db.findAuthorization tenantId requestId).map AuthorizationRow.record := by
  funext tx
  unfold fetchAuthorizationForUpdate TxM.query
  cases hab : tx.aborted with
  | true => simp [bind, StateT.bind, Except.bind, hab]
  | false =>
      cases hfind : tx.db.findAuthorization tenantId requestId with
      | none =>
          simp only [bind, StateT.bind, Except.bind, hab, hfind]
          rfl
      | some row =>
          simp only [bind, StateT.bind, Except.bind, hab, hfind,
            authorizationRecord_authorizationColumns]
          rfl

variable {tenantId : Uuid}

theorem fetchAuthorizationForUpdate_bind_eq_ok {α : Type}
    {requestId : String} {f : Option BillingAuthorizationRecord → TxM α} {tx : Tx} {r : α × Tx} :
    (fetchAuthorizationForUpdate tenantId requestId >>= f) tx = .ok r ↔
      tx.aborted = false ∧
        f ((tx.db.findAuthorization tenantId requestId).map AuthorizationRow.record)
          tx = .ok r := by
  rw [fetchAuthorizationForUpdate_eq, TxM.query_bind_eq_ok]

/-! ## Posting to the ledger -/

namespace Db

/-- The balance of a tenant, zero without an account. -/
def balance (db : Db) (tenantId : Uuid) : I64 := (db.creditAccounts tenantId).getD 0

/-- The balance after a posting. -/
def nextBalance (db : Db) (p : CreditDeltaParams) : I64 :=
  (db.balance p.tenantId).satAdd p.deltaMicrocredits

/-- The tables after a posting. -/
def post (db : Db) (p : CreditDeltaParams) : Db :=
  { db with
    creditAccounts :=
      Function.update db.creditAccounts p.tenantId (some (db.nextBalance p))
    ledger := db.ledger ++ [p.ledgerRow (db.nextBalance p)]
    saturated := db.saturated ||
      (db.nextBalance p).val ≠ (db.balance p.tenantId).val + p.deltaMicrocredits.val }

end Db

/-- What a posting does in an open transaction. -/
theorem applyCreditDeltaInner_run (p : CreditDeltaParams) (db : Db) :
    applyCreditDeltaInner p ⟨db, false⟩ =
      if db.nextBalance p < 0 then .error "insufficient credits"
      else if p.tenantId ∉ db.tenants then
        .error "failed to upsert tenant credit account"
      else if db.ledgerConflict (p.ledgerRow (db.nextBalance p)) then
        .ok (db.balance p.tenantId, ⟨{ db.post p with ledger := db.ledger }, true⟩)
      else .ok (db.nextBalance p, ⟨db.post p, false⟩) := by
  change (if db.nextBalance p < 0 then (TxM.fail _ : TxM I64) else _) ⟨db, false⟩ = _
  by_cases hneg : db.nextBalance p < 0
  · rw [if_pos hneg, if_pos hneg]
    rfl
  rw [if_neg hneg, if_neg hneg]
  by_cases hmem : p.tenantId ∈ db.tenants
  · have hup : db.upsertCreditAccount p.tenantId (db.nextBalance p)
        ((db.nextBalance p).val ≠
          (db.balance p.tenantId).val + p.deltaMicrocredits.val) =
        some { db.post p with ledger := db.ledger } := by
      simp [Db.upsertCreditAccount, Db.post, hmem]
    rw [if_neg (not_not.2 hmem), TxM.bind_of_ok (TxM.execute_of_some hup)]
    by_cases hconf : db.ledgerConflict (p.ledgerRow (db.nextBalance p)) = true
    · have hins : TxM.insertLedger (p.ledgerRow (db.nextBalance p))
          ⟨{ db.post p with ledger := db.ledger }, false⟩ =
          .ok (false, ⟨{ db.post p with ledger := db.ledger }, true⟩) :=
        if_pos hconf
      rw [if_pos hconf]
      exact TxM.bind_of_ok hins
    · have hins : TxM.insertLedger (p.ledgerRow (db.nextBalance p))
          ⟨{ db.post p with ledger := db.ledger }, false⟩ =
          .ok (true, ⟨db.post p, false⟩) :=
        if_neg hconf
      rw [if_neg hconf]
      exact TxM.bind_of_ok hins
  · have hup : db.upsertCreditAccount p.tenantId (db.nextBalance p)
        ((db.nextBalance p).val ≠
          (db.balance p.tenantId).val + p.deltaMicrocredits.val) = none := by
      simp [Db.upsertCreditAccount, hmem]
    rw [if_pos hmem]
    exact TxM.bind_of_error (TxM.execute_of_none hup)

variable {p : CreditDeltaParams} {db db' : Db}

/-- A posting that is followed by another statement of the transaction went in
without a conflict. -/
theorem applyCreditDeltaInner_bind_eq_ok {α : Type} {f : I64 → TxM α} {r : α × Tx}
    (h : (applyCreditDeltaInner p >>= f) ⟨db, false⟩ = .ok r) :
    0 ≤ (db.nextBalance p).val ∧ p.tenantId ∈ db.tenants ∧
      (f (db.nextBalance p) ⟨db.post p, false⟩ = .ok r ∨
        ∃ b db', p.requestId.isSome = true ∧ f b ⟨db', true⟩ = .ok r) := by
  obtain ⟨b, tx, hp, h⟩ := TxM.bind_eq_ok.1 h
  rw [applyCreditDeltaInner_run] at hp
  by_cases hneg : db.nextBalance p < 0
  · rw [if_pos hneg] at hp
    cases hp
  rw [if_neg hneg] at hp
  by_cases hmem : p.tenantId ∈ db.tenants
  · rw [if_neg (not_not.2 hmem)] at hp
    refine ⟨not_lt.1 hneg, hmem, ?_⟩
    by_cases hconf : db.ledgerConflict (p.ledgerRow (db.nextBalance p)) = true
    · rw [if_pos hconf] at hp
      obtain ⟨-, rfl⟩ := Prod.mk.inj (Except.ok.inj hp)
      exact .inr ⟨b, _, ((Bool.and_eq_true _ _).mp hconf).1, h⟩
    · rw [if_neg hconf] at hp
      obtain ⟨rfl, rfl⟩ := Prod.mk.inj (Except.ok.inj hp)
      exact .inl h
  · rw [if_pos hmem] at hp
    cases hp

/-! ## The state of the tables -/

namespace Db

/-- Balances are not negative and, as long as none was cut off, equal the sum
of the ledger. -/
structure Balanced (db : Db) : Prop where
  nonneg : ∀ t, 0 ≤ (db.balance t).val
  eq_total : db.saturated = false → ∀ t, (db.balance t).val = db.book.total t

/-- Authorizations belong to tenants and are unique for a request, and the
ledger carries the id of a request only when its authorization is no longer
open. -/
structure Keyed (db : Db) : Prop where
  tenant_mem : ∀ a ∈ db.authorizations, a.tenantId ∈ db.tenants
  request_nodup : (db.authorizations.map fun a => (a.tenantId, a.requestId)).Nodup
  ledger_request : ∀ row ∈ db.ledger, ∀ rid, row.requestId = some rid →
    ∃ a ∈ db.authorizations, a.tenantId = row.tenantId ∧ a.requestId = rid ∧
      a.status ≠ .authorized

theorem book_post (db : Db) (p : CreditDeltaParams) :
    (db.post p).book =
      db.book.post [(p.ledgerRow (db.nextBalance p)).entry] := by
  simp [book, post, Book.post]

variable {g : AuthorizationRow → AuthorizationRow}

theorem book_updateAuthorization (db : Db) (id : Uuid) {k : Hold Uuid Uuid → Hold Uuid Uuid}
    (h : ∀ row, (g row).hold = k row.hold) :
    (db.updateAuthorization id g).book = db.book.update id k := by
  simp only [book, updateAuthorization, Book.update, Table.updateKey, List.map_map,
    Book.mk.injEq, true_and]
  refine List.map_congr_left fun row _ => ?_
  change (if row.id = id then g row else row).hold =
    if row.id = id then k row.hold else row.hold
  by_cases hid : row.id = id
  · rw [if_pos hid, if_pos hid, h]
  · rw [if_neg hid, if_neg hid]

theorem Balanced.post {db : Db} (hb : db.Balanced) {p : CreditDeltaParams}
    (hn : 0 ≤ (db.nextBalance p).val) : (db.post p).Balanced where
  nonneg := by
    intro t
    by_cases ht : t = p.tenantId
    · subst ht
      simpa [balance, Db.post] using hn
    · have := hb.nonneg t
      simpa [balance, Db.post, ht] using this
  eq_total := by
    intro hs t
    simp only [Db.post, Bool.or_eq_false_iff, ne_eq, decide_not,
      Bool.not_eq_false', decide_eq_true_eq] at hs
    obtain ⟨hs, hexact⟩ := hs
    have htot := hb.eq_total hs t
    rw [book_post, Book.total_post, Table.sumOver_singleton, ← htot]
    by_cases ht : p.tenantId = t
    · subst ht
      simpa [balance, Db.post, LedgerRow.entry, CreditDeltaParams.ledgerRow]
        using hexact
    · have ht' : t ≠ p.tenantId := Ne.symm ht
      simp [balance, Db.post, LedgerRow.entry, CreditDeltaParams.ledgerRow, ht, ht']

theorem Keyed.post {db : Db} (hk : db.Keyed) {p : CreditDeltaParams}
    (hr : p.requestId = none) : (db.post p).Keyed where
  tenant_mem := hk.tenant_mem
  request_nodup := hk.request_nodup
  ledger_request := by
    intro row hrow rid hrid
    rcases List.mem_append.1 hrow with hrow | hrow
    · exact hk.ledger_request row hrow rid hrid
    · rw [List.mem_singleton.1 hrow] at hrid
      cases hr.symm.trans hrid

theorem mem_updateAuthorization {db : Db} {id : Uuid} {a : AuthorizationRow} :
    a ∈ (db.updateAuthorization id g).authorizations ↔
      ∃ x ∈ db.authorizations, (if x.id = id then g x else x) = a :=
  Table.mem_updateKey

theorem Keyed.updateAuthorization {db : Db} (hk : db.Keyed) (id : Uuid)
    (ht : ∀ a, (g a).tenantId = a.tenantId) (hr : ∀ a, (g a).requestId = a.requestId)
    (hs : ∀ a, a.status ≠ .authorized → (g a).status ≠ .authorized) :
    (db.updateAuthorization id g).Keyed where
  tenant_mem := by
    intro a ha
    obtain ⟨x, hx, rfl⟩ := mem_updateAuthorization.1 ha
    have hmem := hk.tenant_mem x hx
    split
    · rw [ht]
      exact hmem
    · exact hmem
  request_nodup := by
    have hmap : (db.updateAuthorization id g).authorizations.map
        (fun a => (a.tenantId, a.requestId)) =
        db.authorizations.map fun a => (a.tenantId, a.requestId) := by
      simp only [Db.updateAuthorization, Table.updateKey, List.map_map]
      refine List.map_congr_left fun a _ => ?_
      by_cases h : a.id = id <;> simp [h, ht, hr]
    rw [hmap]
    exact hk.request_nodup
  ledger_request := by
    intro row hrow rid hrid
    obtain ⟨a, ha, htid, hreq, hst⟩ := hk.ledger_request row hrow rid hrid
    refine ⟨_, mem_updateAuthorization.2 ⟨a, ha, rfl⟩, ?_⟩
    split
    · exact ⟨(ht a).trans htid, (hr a).trans hreq, hs a hst⟩
    · exact ⟨htid, hreq, hst⟩

end Db

/-- The tables `db'` come from `db` by the moves `ms` on the book. -/
structure Simulates (db : Db) (ms : List (Move Uuid Uuid)) (db' : Db) : Prop where
  run : Run db.book ms db'.book
  balanced : db.Balanced → db'.Balanced
  keyed : db.Keyed → db'.Keyed

theorem Simulates.refl (db : Db) : Simulates db [] db :=
  ⟨.nil _, id, id⟩

theorem Simulates.trans {db'' : Db} {ms ms' : List (Move Uuid Uuid)}
    (h : Simulates db ms db') (h' : Simulates db' ms' db'') :
    Simulates db (ms ++ ms') db'' :=
  ⟨h.run.append h'.run, fun hb => h'.balanced (h.balanced hb),
    fun hk => h'.keyed (h.keyed hk)⟩

/-- A change of the sessions or the check-ins is no move. -/
theorem Simulates.congr {db'' : Db} {ms : List (Move Uuid Uuid)}
    (h : Simulates db ms db') (ht : db''.tenants = db'.tenants)
    (hc : db''.creditAccounts = db'.creditAccounts) (hl : db''.ledger = db'.ledger)
    (ha : db''.authorizations = db'.authorizations)
    (hs : db''.saturated = db'.saturated) : Simulates db ms db'' := by
  have hbook : db''.book = db'.book := by rw [Db.book, Db.book, hl, ha]
  refine ⟨hbook ▸ h.run, fun hb => ?_, fun hk => ?_⟩
  · obtain ⟨h₁, h₂⟩ := h.balanced hb
    refine ⟨?_, ?_⟩
    · intro t
      rw [Db.balance, hc]
      exact h₁ t
    · intro hsat t
      rw [Db.balance, hc, hbook]
      exact h₂ (hs ▸ hsat) t
  · obtain ⟨h₁, h₂, h₃⟩ := h.keyed hk
    refine ⟨?_, ?_, ?_⟩
    · rw [ha, ht]
      exact h₁
    · rw [ha]
      exact h₂
    · rw [hl, ha]
      exact h₃

/-! ## Grants -/

theorem Simulates.grant (hn : 0 ≤ (db.nextBalance p).val) (hr : p.requestId = none)
    (ha : (p.ledgerRow (db.nextBalance p)).authorizationId = none) :
    Simulates db [.grant p.tenantId p.deltaMicrocredits.val] (db.post p) := by
  refine ⟨?_, fun hb => hb.post hn, fun hk => hk.post hr⟩
  have hentry : (p.ledgerRow (db.nextBalance p)).entry =
      ⟨p.tenantId, none, p.deltaMicrocredits.val⟩ := by
    rw [LedgerRow.entry, ha]
    rfl
  rw [Db.book_post, hentry]
  exact Run.single (.grant _ _ _)

variable {call : BillingCall}

theorem adminRechargeTenant_simulates {req : AdminRechargeRequest} {r : AdminRechargeResponse}
    (h : adminRechargeTenant call tenantId req db = (.ok r, db')) :
    Simulates db [.grant tenantId r.amountMicrocredits.val] db' := by
  unfold adminRechargeTenant at h
  split at h
  · cases (Prod.mk.inj h).1
  · obtain ⟨tx, hx, rfl⟩ := TxM.transaction_eq_ok.1 h
    obtain ⟨hn, -, hp | ⟨b, db₁, hreq, -⟩⟩ := applyCreditDeltaInner_bind_eq_ok hx
    · obtain ⟨rfl, rfl⟩ := Prod.mk.inj (TxM.pure_eq_ok.1 hp)
      exact Simulates.grant hn rfl rfl
    · cases hreq

theorem dailyCheckin_simulates {r : TenantDailyCheckinResponse}
    (h : dailyCheckin call tenantId db = (.ok r, db')) :
    Simulates db [.grant tenantId r.rewardMicrocredits.val] db' := by
  unfold dailyCheckin at h
  obtain ⟨tx, hx, rfl⟩ := TxM.transaction_eq_ok.1 h
  obtain ⟨-, hx⟩ := TxM.query_bind_eq_ok.1 hx
  split at hx
  · exact (TxM.fail_eq_ok.1 hx).elim
  · obtain ⟨-, db₁, hins, hx⟩ := TxM.execute_bind_eq_ok.1 hx
    obtain ⟨c, rfl⟩ := Db.insertCheckin_eq_some hins
    have hsim : Simulates db [] { db with checkins := c } :=
      (Simulates.refl db).congr rfl rfl rfl rfl rfl
    obtain ⟨hn, -, hp | ⟨b, db₂, hreq, -⟩⟩ := applyCreditDeltaInner_bind_eq_ok hx
    · obtain ⟨rfl, rfl⟩ := Prod.mk.inj (TxM.pure_eq_ok.1 hp)
      exact hsim.trans (Simulates.grant hn rfl rfl)
    · cases hreq

/-! ## Holds -/

theorem touchSession_eq_ok {sessionKey : Option String}
    {model : String} {band : BillingPricingBand} {now : DateTime} {tx : Tx}
    {r : Unit × Tx} (h : touchSession tenantId sessionKey model band now tx = .ok r) :
    ∃ s, r.2 = { tx with db := { tx.db with sessions := s } } := by
  cases sessionKey with
  | none =>
      rw [TxM.pure_eq_ok.1 h]
      exact ⟨tx.db.sessions, rfl⟩
  | some key =>
      unfold touchSession upsertBillingSession at h
      simp only at h
      split at h
      · rw [TxM.pure_eq_ok.1 h]
        exact ⟨tx.db.sessions, rfl⟩
      · obtain ⟨hab, db, hdb, rfl⟩ := TxM.execute_eq_ok.1 h
        obtain ⟨s, hs⟩ := tx.db.upsertSession_eq
          { tenantId, sessionKey := Text.trim key, model, pricingBand := band.asStr
            enteredBandAt := now, lastSeenAt := now
            expiresAt := now + seconds defaultBillingSessionTtlSec }
        rw [hab, ← Option.some.inj hdb, hs]
        exact ⟨s, rfl⟩

def Db.sessionBand (db : Db) (call : BillingCall) (tenantId : Uuid)
    (sessionKey : Option String) : Option String :=
  match sessionKey with
  | none => none
  | some value =>
    if Text.trim value = "" then none
    else
      (db.sessions.find? fun r =>
        r.tenantId = tenantId ∧ r.sessionKey = Text.trim value ∧
          call.sessionNow < r.expiresAt).map (·.pricingBand)

theorem fetchSession_run (call : BillingCall) (tenantId : Uuid)
    (sessionKey : Option String) (db : Db) :
    fetchSession call tenantId sessionKey ⟨db, false⟩ =
      .ok (db.sessionBand call tenantId sessionKey, ⟨db, false⟩) := by
  cases sessionKey with
  | none => rfl
  | some value =>
      unfold fetchSession fetchBillingSessionForUpdate Db.sessionBand
      simp only
      split
      · rfl
      · rfl

theorem fetchSession_bind {α : Type} (call : BillingCall) (tenantId : Uuid)
    (sessionKey : Option String) (f : Option String → TxM α) (db : Db) :
    (fetchSession call tenantId sessionKey >>= f) ⟨db, false⟩ =
      f (db.sessionBand call tenantId sessionKey) ⟨db, false⟩ :=
  TxM.bind_of_ok (fetchSession_run call tenantId sessionKey db)

/-- A posting as it belongs to an authorization. -/
structure PostsFor (row : AuthorizationRow) (p : CreditDeltaParams) : Prop where
  tenantId : p.tenantId = row.tenantId
  authorizationId : ∀ b, (p.ledgerRow b).authorizationId = some row.id

variable {row : AuthorizationRow}

theorem PostsFor.entry (h : PostsFor row p) (b : I64) :
    (p.ledgerRow b).entry = ⟨row.tenantId, some row.id, p.deltaMicrocredits.val⟩ := by
  rw [LedgerRow.entry, h.authorizationId b, ← h.tenantId]
  rfl

/-- Posting a reservation and storing its authorization is a hold. -/
theorem Simulates.hold
    (hn : 0 ≤ (db.nextBalance p).val) (hp : PostsFor row p) (hr : p.requestId = none)
    (hd : p.deltaMicrocredits.val = -row.reservedMicrocredits.val)
    (hres : 0 < row.reservedMicrocredits.val) (hcap : row.capturedMicrocredits = 0)
    (hst : row.status = .authorized) (hins : (db.post p).insertAuthorization row = some db') :
    Simulates db [.hold row.id row.tenantId row.reservedMicrocredits.val] db' := by
  obtain ⟨hnew, hten, rfl⟩ := Db.insertAuthorization_eq_some.1 hins
  refine ⟨?_, fun hb => ?_, fun hk => ?_⟩
  · have hid : row.id ∉ db.book.holds.map Hold.id := by
      simp only [Db.book, List.map_map, List.mem_map, Function.comp_apply, not_exists,
        not_and]
      intro a ha
      exact (hnew a ha).1
    have hstep := Step.hold db.book row.id row.tenantId
      row.reservedMicrocredits.val hres hid
    have hbook : Db.book { db.post p with
        authorizations := (db.post p).authorizations ++ [row] } =
        { entries := db.book.entries ++
            [⟨row.tenantId, some row.id, -row.reservedMicrocredits.val⟩]
          holds := db.book.holds ++
            [⟨row.id, row.tenantId, row.reservedMicrocredits.val, 0, .held⟩] } := by
      have hhold : row.hold =
          ⟨row.id, row.tenantId, row.reservedMicrocredits.val, 0, .held⟩ := by
        rw [AuthorizationRow.hold, hcap, hst]
        rfl
      simp [Db.book, Db.post, hp.entry, hd, hhold]
    rw [hbook]
    exact Run.single hstep
  · obtain ⟨h₁, h₂⟩ := hb.post hn
    exact ⟨h₁, h₂⟩
  · obtain ⟨h₁, h₂, h₃⟩ := hk.post hr
    refine ⟨?_, ?_, ?_⟩
    · intro a ha
      rcases List.mem_append.1 ha with ha | ha
      · exact h₁ a ha
      · rw [List.mem_singleton.1 ha]
        exact hten
    · rw [List.map_append, List.map_singleton, List.nodup_append]
      refine ⟨h₂, List.nodup_singleton _, ?_⟩
      intro x hx y hy hxy
      obtain ⟨a, ha, rfl⟩ := List.mem_map.1 hx
      rw [List.mem_singleton.1 hy] at hxy
      obtain ⟨ht, hrid⟩ := Prod.mk.inj hxy
      exact (hnew a ha).2 ⟨ht, hrid⟩
    · intro l hl rid hrid
      obtain ⟨a, ha, hrest⟩ := h₃ l hl rid hrid
      exact ⟨a, List.mem_append_left _ ha, hrest⟩

/-- Posting the extra charge and marking the authorization as captured settles
the hold. -/
theorem Simulates.settle {charged : I64} {g : AuthorizationRow → AuthorizationRow}
    (hrow : row ∈ db.authorizations) (hst : row.status = .authorized)
    (hn : 0 ≤ (db.nextBalance p).val) (hp : PostsFor row p)
    (hr : p.requestId = some row.requestId) (hc : 0 ≤ charged.val)
    (hd : p.deltaMicrocredits.val =
      -max (charged.val - row.reservedMicrocredits.val) 0)
    (hg : ∀ a, (g a).hold = Hold.settle charged.val a.hold)
    (hreq : ∀ a, (g a).requestId = a.requestId) (hgst : ∀ a, (g a).status = .captured) :
    Simulates db [.settle row.id charged.val]
      ((db.post p).updateAuthorization row.id g) := by
  have hten : ∀ a, (g a).tenantId = a.tenantId := fun a =>
    congrArg Hold.account (hg a)
  refine ⟨?_, fun hb => ?_, fun hk => ?_⟩
  · have hmem : row.hold ∈ db.book.holds := List.mem_map_of_mem hrow
    have hstep := Step.settle db.book row.hold charged.val hmem
      (by rw [AuthorizationRow.hold, hst]; rfl) hc
    rw [Db.book_updateAuthorization _ _ hg, Db.book_post, hp.entry, hd]
    exact Run.single hstep
  · obtain ⟨h₁, h₂⟩ := hb.post hn
    exact ⟨h₁, h₂⟩
  · -- the row that carries the request id belongs to the authorization that is
    -- captured in the same transaction
    have hk' := hk.updateAuthorization row.id (g := g) hten hreq fun a _ => by
      rw [hgst]
      exact nofun
    refine ⟨hk'.tenant_mem, hk'.request_nodup, ?_⟩
    intro l hl rid hrid
    rcases List.mem_append.1 hl with hl | hl
    · exact hk'.ledger_request l hl rid hrid
    · rw [List.mem_singleton.1 hl] at hrid ⊢
      have hrid : row.requestId = rid := Option.some.inj (hr.symm.trans hrid)
      refine ⟨g row, Db.mem_updateAuthorization.2 ⟨row, hrow, if_pos rfl⟩, ?_, ?_, ?_⟩
      · exact (hten row).trans hp.tenantId.symm
      · exact (hreq row).trans hrid
      · rw [hgst]
        exact nofun

/-- The tables after the refund of a release, if there is one. -/
def Db.refund (db : Db) (p : CreditDeltaParams) : Db :=
  if 0 < p.deltaMicrocredits then db.post p else db

theorem Db.refund_of_pos (h : 0 < p.deltaMicrocredits) : db.refund p = db.post p := if_pos h

theorem Db.refund_of_not_pos (h : ¬0 < p.deltaMicrocredits) : db.refund p = db := if_neg h

/-- Refunding what is left of a reservation and marking the authorization as
released closes the hold. -/
theorem Simulates.close {g : AuthorizationRow → AuthorizationRow}
    (hrow : row ∈ db.authorizations) (hst : row.status ≠ .released)
    (hn : 0 < p.deltaMicrocredits → 0 ≤ (db.nextBalance p).val) (hp : PostsFor row p)
    (hr : p.requestId = none)
    (hd : p.deltaMicrocredits.val =
      max (row.reservedMicrocredits.val - row.capturedMicrocredits.val) 0)
    (hg : ∀ a, (g a).hold = Hold.close a.hold)
    (hreq : ∀ a, (g a).requestId = a.requestId) (hgst : ∀ a, (g a).status = .released) :
    Simulates db [.close row.id] ((db.refund p).updateAuthorization row.id g) := by
  have hten : ∀ a, (g a).tenantId = a.tenantId := fun a =>
    congrArg Hold.account (hg a)
  have hmem : row.hold ∈ db.book.holds := List.mem_map_of_mem hrow
  have hphase : row.hold.phase ≠ .closed := by
    intro h
    cases hs : row.status with
    | released => exact hst hs
    | authorized =>
        rw [AuthorizationRow.hold, hs] at h
        cases h
    | captured =>
        rw [AuthorizationRow.hold, hs] at h
        cases h
  have hunused : row.hold.unused = p.deltaMicrocredits.val := hd.symm
  have hbook : (db.refund p).book = db.book.post row.hold.refund := by
    unfold Db.refund Hold.refund
    rw [hunused]
    by_cases hpos : 0 < p.deltaMicrocredits
    · have hpos' : 0 < p.deltaMicrocredits.val := hpos
      rw [if_pos hpos, if_pos hpos', Db.book_post, hp.entry]
      rfl
    · have hpos' : ¬0 < p.deltaMicrocredits.val := hpos
      rw [if_neg hpos, if_neg hpos']
      simp [Book.post]
  refine ⟨?_, fun hb => ?_, fun hk => ?_⟩
  · rw [Db.book_updateAuthorization _ _ hg, hbook]
    exact Run.single (Step.close db.book row.hold hmem hphase)
  · have hb' : (db.refund p).Balanced := by
      unfold Db.refund
      split
      · rename_i hpos
        exact hb.post (hn hpos)
      · exact hb
    exact ⟨hb'.nonneg, hb'.eq_total⟩
  · have hk' : (db.refund p).Keyed := by
      unfold Db.refund
      split
      · exact hk.post hr
      · exact hk
    refine hk'.updateAuthorization row.id hten hreq fun a _ => ?_
    rw [hgst]
    intro hopen
    cases hopen

/-! ## The operations on holds -/

/-- An authorization that succeeds finds an open hold for its request, or makes
a new one. -/
theorem billingAuthorize_simulates {req : BillingAuthorizeRequest} {r : BillingAuthorizeResponse}
    (h : billingAuthorize call req db = (.ok r, db')) :
    Simulates db [] db' ∨
      Simulates db [.hold call.newId req.tenantId req.reservedMicrocredits.val] db' := by
  unfold billingAuthorize at h
  simp only at h
  split at h
  · cases (Prod.mk.inj h).1
  split at h
  · cases (Prod.mk.inj h).1
  split at h
  · cases (Prod.mk.inj h).1
  rename_i hpos
  obtain ⟨tx, hx, rfl⟩ := TxM.transaction_eq_ok.1 h
  unfold billingAuthorizeTx at hx
  obtain ⟨-, hx⟩ := fetchAuthorizationForUpdate_bind_eq_ok.1 hx
  cases hfind : db.findAuthorization req.tenantId (Text.trim req.requestId) with
  | some row =>
      left
      rw [hfind] at hx
      simp only [Option.map_some] at hx
      split at hx
      · exact (TxM.fail_eq_ok.1 hx).elim
      · obtain ⟨-, hx⟩ := TxM.query_bind_eq_ok.1 hx
        obtain ⟨-, rfl⟩ := Prod.mk.inj (TxM.pure_eq_ok.1 hx)
        exact Simulates.refl db
  | none =>
      right
      rw [hfind] at hx
      simp only [Option.map_none] at hx
      rw [fetchSession_bind] at hx
      obtain ⟨decision, hdec, hx⟩ := TxM.ofResult_bind_eq_ok.1 hx
      obtain ⟨hn, -, hx | ⟨b, db₁, hreq, -⟩⟩ := applyCreditDeltaInner_bind_eq_ok hx
      · obtain ⟨-, db₂, hins, hx⟩ := TxM.execute_bind_eq_ok.1 hx
        obtain ⟨u, tx₂, htouch, hx⟩ := TxM.bind_eq_ok.1 hx
        obtain ⟨s, rfl⟩ := touchSession_eq_ok htouch
        obtain ⟨-, rfl⟩ := Prod.mk.inj (TxM.pure_eq_ok.1 hx)
        have hres : 0 < req.reservedMicrocredits.val := not_le.1 hpos
        have hsim := Simulates.hold hn ⟨rfl, fun b => ?_⟩ rfl
          (I64.val_neg (le_of_lt hres)) hres rfl rfl hins
        · exact hsim.congr rfl rfl rfl rfl rfl
        · simp [LedgerRow.authorizationId, CreditDeltaParams.ledgerRow, Json.getStr,
            Json.get_ofFields, Json.lookupField, pricingFields, jsonUuid, Json.asStr]
      · cases hreq

/-- The charge of a capture: what the reported usage costs at the prices that
hold for the request. -/
def captureCharge (call : BillingCall) (req : BillingCaptureRequest)
    (row : AuthorizationRow) (db : Db) : Result I64 :=
  (req.pricing call (Text.trim req.model) row.record
    (db.sessionBand call req.tenantId (req.effectiveSessionKey row.record))).map
    fun decision => req.usage.charged decision.pricing

variable {req : BillingCaptureRequest}

theorem captureCharge_nonneg {c : I64} (h : captureCharge call req row db = .ok c) : 0 ≤ c.val := by
  unfold captureCharge at h
  obtain ⟨decision, -, rfl⟩ := Except.map_eq_ok h
  exact calculateChargedMicrocredits_nonneg _ _ _ _

def captureMeta (call : BillingCall) (req : BillingCaptureRequest)
    (authorization : BillingAuthorizationRecord) (decision : BillingPricingDecision) : Json :=
  Json.ofFields
    ([("phase", .str "capture")] ++
      pricingFields (req.effectiveSessionKey authorization)
        (req.effectiveRequestKind authorization) (req.effectiveServiceTier authorization)
        decision ++
      [("pricing_source", .str decision.pricing.source),
        ("charged_microcredits", .int (req.usage.charged decision.pricing).val),
        ("captured_at", .str (call.rfc3339 call.now)),
        ("is_stream", .bool req.isStream)])

def capturePosting (call : BillingCall) (req : BillingCaptureRequest)
    (authorization : BillingAuthorizationRecord) (decision : BillingPricingDecision) :
    CreditDeltaParams :=
  let charged := req.usage.charged decision.pricing
  let extraCharge := max (charged.satSub authorization.reservedMicrocredits) 0
  { tenantId := req.tenantId
    apiKeyId := req.apiKeyId.or authorization.apiKeyId
    eventType := .capture, deltaMicrocredits := -extraCharge
    requestId := some (Text.trim req.requestId), model := some (Text.trim req.model)
    inputTokens := some req.usage.inputTokens
    outputTokens := some req.usage.outputTokens
    metaJson := some (Json.ofFields
      ([("phase", .str "capture"),
        ("authorization_id", jsonUuid authorization.id)] ++
      pricingFields (req.effectiveSessionKey authorization)
        (req.effectiveRequestKind authorization) (req.effectiveServiceTier authorization)
        decision ++
      [("reserved_microcredits", .int authorization.reservedMicrocredits.val),
        ("charged_microcredits", .int charged.val),
        ("extra_charge_microcredits", .int extraCharge.val)] ++
      usageFields req.usage decision.pricing ++ [("is_stream", .bool req.isStream)]))
    now := call.now }

theorem capturePosting_postsFor (call : BillingCall) (ht : req.tenantId = row.tenantId)
    (decision : BillingPricingDecision) :
    PostsFor row (capturePosting call req row.record decision) := by
  refine ⟨ht, fun b => ?_⟩
  simp [LedgerRow.authorizationId, CreditDeltaParams.ledgerRow, capturePosting, Json.getStr,
    Json.get_ofFields, Json.lookupField, pricingFields, usageFields, jsonUuid, Json.asStr,
    AuthorizationRow.record]

variable {r : BillingCaptureResponse}

/-- What a capture that succeeds does: nothing when the hold was captured
before, and otherwise it makes its posting and settles the hold at the charge. -/
theorem billingCapture_eq_ok_posting (h : billingCapture call req db = (.ok r, db')) :
    ∃ row, db.findAuthorization req.tenantId (Text.trim req.requestId) = some row ∧
      (row.status = .captured ∧ db' = db ∨
        row.status = .authorized ∧
          ∃ decision sessions,
            req.pricing call (Text.trim req.model) row.record (db.sessionBand call
              req.tenantId (req.effectiveSessionKey row.record)) = .ok decision ∧
            r.chargedMicrocredits = req.usage.charged decision.pricing ∧
            0 ≤ (db.nextBalance (capturePosting call req row.record decision)).val ∧
            db' = { (db.post (capturePosting call req row.record decision)).updateAuthorization
              row.id (AuthorizationRow.capture (req.apiKeyId.or row.apiKeyId)
                (row.model.getD (Text.trim req.model)) (req.usage.charged decision.pricing)
                (captureMeta call req row.record decision) call.now) with
              sessions }) := by
  unfold billingCapture at h
  simp only at h
  split at h
  · cases (Prod.mk.inj h).1
  split at h
  · cases (Prod.mk.inj h).1
  obtain ⟨tx, hx, rfl⟩ := TxM.transaction_eq_ok.1 h
  unfold billingCaptureTx at hx
  obtain ⟨-, hx⟩ := fetchAuthorizationForUpdate_bind_eq_ok.1 hx
  cases hfind : db.findAuthorization req.tenantId (Text.trim req.requestId) with
  | none =>
      rw [hfind] at hx
      exact (TxM.fail_eq_ok.1 hx).elim
  | some row =>
      refine ⟨row, rfl, ?_⟩
      rw [hfind] at hx
      simp only [Option.map_some] at hx
      split at hx
      · left
        rename_i hst
        obtain ⟨-, hx⟩ := TxM.query_bind_eq_ok.1 hx
        obtain ⟨-, rfl⟩ := Prod.mk.inj (TxM.pure_eq_ok.1 hx)
        exact ⟨of_decide_eq_true hst, rfl⟩
      split at hx
      · exact (TxM.fail_eq_ok.1 hx).elim
      right
      rename_i hst
      refine ⟨not_not.1 hst, ?_⟩
      rw [fetchSession_bind] at hx
      obtain ⟨decision, hdec, hx⟩ := TxM.ofResult_bind_eq_ok.1 hx
      obtain ⟨hn, -, hx | ⟨b, db₁, -, hx⟩⟩ := applyCreditDeltaInner_bind_eq_ok hx
      · obtain ⟨-, db₂, hup, hx⟩ := TxM.execute_bind_eq_ok.1 hx
        obtain ⟨u, tx₂, htouch, hx⟩ := TxM.bind_eq_ok.1 hx
        obtain ⟨s, rfl⟩ := touchSession_eq_ok htouch
        obtain ⟨rfl, rfl⟩ := Prod.mk.inj (TxM.pure_eq_ok.1 hx)
        obtain rfl := Option.some.inj hup
        exact ⟨decision, s, hdec, rfl, hn, rfl⟩
      · cases (TxM.execute_bind_eq_ok.1 hx).1

/-- The same with what its posting has to do with the hold. -/
theorem billingCapture_eq_ok_priced (h : billingCapture call req db = (.ok r, db')) :
    ∃ row, db.findAuthorization req.tenantId (Text.trim req.requestId) = some row ∧
      (row.status = .captured ∧ db' = db ∨
        row.status = .authorized ∧
          ∃ decision p sessions,
            req.pricing call (Text.trim req.model) row.record (db.sessionBand call
              req.tenantId (req.effectiveSessionKey row.record)) = .ok decision ∧
            r.chargedMicrocredits = req.usage.charged decision.pricing ∧
            0 ≤ (db.nextBalance p).val ∧ PostsFor row p ∧
            p.requestId = some row.requestId ∧
            p.deltaMicrocredits =
              -max ((req.usage.charged decision.pricing).satSub row.reservedMicrocredits) 0 ∧
            db' = { (db.post p).updateAuthorization row.id
              (AuthorizationRow.capture (req.apiKeyId.or row.apiKeyId)
                (row.model.getD (Text.trim req.model)) (req.usage.charged decision.pricing)
                (captureMeta call req row.record decision) call.now) with
              sessions }) := by
  obtain ⟨row, hfind, hdone | ⟨hst, decision, sessions, hdec, hr, hn, hdb⟩⟩ :=
    billingCapture_eq_ok_posting h
  · exact ⟨row, hfind, .inl hdone⟩
  · obtain ⟨-, htid, hrid⟩ := Db.findAuthorization_eq_some hfind
    exact ⟨row, hfind, .inr ⟨hst, decision, _, sessions, hdec, hr, hn,
      capturePosting_postsFor call htid.symm decision, congrArg some hrid.symm, rfl, hdb⟩⟩

/-- The same in terms of the charge alone. -/
theorem billingCapture_eq_ok (h : billingCapture call req db = (.ok r, db')) :
    ∃ row, db.findAuthorization req.tenantId (Text.trim req.requestId) = some row ∧
      (row.status = .captured ∧ db' = db ∨
        row.status = .authorized ∧
          ∃ c p fields sessions,
            captureCharge call req row db = .ok c ∧ r.chargedMicrocredits = c ∧
            0 ≤ (db.nextBalance p).val ∧ PostsFor row p ∧
            p.requestId = some row.requestId ∧
            p.deltaMicrocredits = -max (c.satSub row.reservedMicrocredits) 0 ∧
            db' = { (db.post p).updateAuthorization row.id
              (AuthorizationRow.capture (req.apiKeyId.or row.apiKeyId)
                (row.model.getD (Text.trim req.model)) c fields call.now) with
              sessions }) := by
  obtain ⟨row, hfind, ⟨hst, rfl⟩ | ⟨hst, decision, p, sessions, hdec, hr, hn, hp, hrid, hd,
    rfl⟩⟩ := billingCapture_eq_ok_priced h
  · exact ⟨row, hfind, .inl ⟨hst, rfl⟩⟩
  · have hc : captureCharge call req row db = .ok (req.usage.charged decision.pricing) := by
      unfold captureCharge
      rw [hdec]
      rfl
    exact ⟨row, hfind, .inr ⟨hst, _, p, _, sessions, hc, hr, hn, hp, hrid, hd, rfl⟩⟩

theorem billingCapture_simulates (hwf : db.book.WellFormed)
    (h : billingCapture call req db = (.ok r, db')) :
    Simulates db [] db' ∨
      ∃ id c, Simulates db [.settle id c] db' := by
  obtain ⟨row, hfind, ⟨-, rfl⟩ | ⟨hst, c, p, fields, sessions, hc, -, hn, hp, hr, hd,
    rfl⟩⟩ := billingCapture_eq_ok h
  · exact .inl (Simulates.refl db')
  · right
    obtain ⟨hrow, -, -⟩ := Db.findAuthorization_eq_some hfind
    have hres : 0 < row.reservedMicrocredits.val :=
      hwf.reserved_pos row.hold (List.mem_map_of_mem hrow)
    have hc := captureCharge_nonneg hc
    have hdelta : p.deltaMicrocredits.val =
        -max (c.val - row.reservedMicrocredits.val) 0 := by
      have hmax := I64.val_satSub_max_zero hc (le_of_lt hres)
      rw [hd, I64.val_neg (by rw [hmax]; exact le_max_right _ _), hmax]
    have hsim := Simulates.settle
      (g := AuthorizationRow.capture (req.apiKeyId.or row.apiKeyId)
        (row.model.getD (Text.trim req.model)) c fields call.now)
      hrow hst hn hp hr hc hdelta (fun _ => rfl) (fun _ => rfl) (fun _ => rfl)
    exact ⟨_, _, hsim.congr rfl rfl rfl rfl rfl⟩

theorem BillingReleaseRequest.postsFor (req : BillingReleaseRequest) (now : DateTime)
    (ht : req.tenantId = row.tenantId) :
    PostsFor row (req.posting now row.record) := by
  refine ⟨ht, fun b => ?_⟩
  change ((req.releaseMeta row.record).getStr "authorization_id").map Uuid.mk = _
  unfold BillingReleaseRequest.releaseMeta
  simp only [List.append_assoc]
  rw [Json.getStr_ofFields_append]
  · simp [Json.getStr, Json.get_ofFields, Json.lookupField, jsonUuid, Json.asStr,
      AuthorizationRow.record]
  · intro g hg
    simp only [List.mem_append, Option.mem_toList, Option.map_eq_some_iff] at hg
    rcases hg with ⟨_, -, rfl⟩ | ⟨_, -, rfl⟩ | ⟨_, -, rfl⟩ | ⟨_, -, rfl⟩ | ⟨_, -, rfl⟩ |
      ⟨_, -, rfl⟩ | ⟨_, -, rfl⟩ | ⟨_, -, rfl⟩ <;> simp

/-- What a release that succeeds does: nothing when the hold was closed before,
and otherwise it refunds what is left of the reservation and closes the hold. -/
theorem billingRelease_eq_ok {req : BillingReleaseRequest} {r : BillingReleaseResponse}
    (h : billingRelease call req db = (.ok r, db')) :
    ∃ row, db.findAuthorization req.tenantId (Text.trim req.requestId) = some row ∧
      (row.status = .released ∧ db' = db ∨
        row.status ≠ .released ∧
          (0 < row.record.releaseMicrocredits →
            0 ≤ (db.nextBalance (req.posting call.now row.record)).val) ∧
          db' = (db.refund (req.posting call.now row.record)).updateAuthorization row.id
            (AuthorizationRow.release call.now)) := by
  unfold billingRelease at h
  simp only at h
  split at h
  · cases (Prod.mk.inj h).1
  obtain ⟨tx, hx, rfl⟩ := TxM.transaction_eq_ok.1 h
  unfold billingReleaseTx at hx
  obtain ⟨-, hx⟩ := fetchAuthorizationForUpdate_bind_eq_ok.1 hx
  cases hfind : db.findAuthorization req.tenantId (Text.trim req.requestId) with
  | none =>
      rw [hfind] at hx
      exact (TxM.fail_eq_ok.1 hx).elim
  | some row =>
      refine ⟨row, rfl, ?_⟩
      rw [hfind] at hx
      simp only [Option.map_some] at hx
      split at hx
      · left
        rename_i hst
        obtain ⟨-, hx⟩ := TxM.query_bind_eq_ok.1 hx
        obtain ⟨-, rfl⟩ := Prod.mk.inj (TxM.pure_eq_ok.1 hx)
        exact ⟨hst, rfl⟩
      right
      rename_i hst
      refine ⟨hst, ?_⟩
      split at hx
      · rename_i hpos
        obtain ⟨hn, -, hx | ⟨b, db₁, hreq, -⟩⟩ := applyCreditDeltaInner_bind_eq_ok hx
        · obtain ⟨-, db₂, hup, hx⟩ := TxM.execute_bind_eq_ok.1 hx
          obtain ⟨-, rfl⟩ := Prod.mk.inj (TxM.pure_eq_ok.1 hx)
          obtain rfl := Option.some.inj hup
          refine ⟨fun _ => hn, ?_⟩
          rw [Db.refund_of_pos (p := req.posting call.now row.record) hpos]
          rfl
        · cases hreq
      · rename_i hpos
        obtain ⟨-, hx⟩ := TxM.query_bind_eq_ok.1 hx
        obtain ⟨-, db₂, hup, hx⟩ := TxM.execute_bind_eq_ok.1 hx
        obtain ⟨-, rfl⟩ := Prod.mk.inj (TxM.pure_eq_ok.1 hx)
        obtain rfl := Option.some.inj hup
        refine ⟨fun h => absurd h hpos, ?_⟩
        rw [Db.refund_of_not_pos (p := req.posting call.now row.record) hpos]
        rfl

theorem val_releaseMicrocredits (hwf : db.book.WellFormed) (hrow : row ∈ db.authorizations) :
    row.record.releaseMicrocredits.val =
      max (row.reservedMicrocredits.val - row.capturedMicrocredits.val) 0 := by
  have hmem : row.hold ∈ db.book.holds := List.mem_map_of_mem hrow
  have hres : 0 < row.reservedMicrocredits.val := hwf.reserved_pos _ hmem
  have hcap : 0 ≤ row.capturedMicrocredits.val := hwf.captured_nonneg _ hmem
  exact I64.val_satSub_max_zero (le_of_lt hres) hcap

theorem billingRelease_simulates {req : BillingReleaseRequest}
    {r : BillingReleaseResponse} (hwf : db.book.WellFormed)
    (h : billingRelease call req db = (.ok r, db')) :
    Simulates db [] db' ∨ ∃ id, Simulates db [.close id] db' := by
  obtain ⟨row, hfind, ⟨-, rfl⟩ | ⟨hst, hn, rfl⟩⟩ := billingRelease_eq_ok h
  · exact .inl (Simulates.refl db')
  · right
    obtain ⟨hrow, htid, -⟩ := Db.findAuthorization_eq_some hfind
    exact ⟨row.id, Simulates.close hrow hst hn (req.postsFor call.now htid.symm) rfl
      (val_releaseMicrocredits hwf hrow) (fun _ => rfl) (fun _ => rfl) (fun _ => rfl)⟩

/-! ## The sweep -/

theorem reconcilePosting_postsFor (now : DateTime) (row : AuthorizationRow) :
    PostsFor row (reconcilePosting now row.record) := by
  refine ⟨rfl, fun b => ?_⟩
  simp [LedgerRow.authorizationId, CreditDeltaParams.ledgerRow, reconcilePosting,
    Json.getStr, Json.get_ofFields, Json.lookupField, jsonUuid, Json.asStr,
    AuthorizationRow.record]

/-- What the sweep does to one authorization. -/
theorem reconcileRow_eq_ok {stats : BillingReconcileStats} {r : BillingReconcileStats × Tx}
    (h : reconcileRow call stats ⟨authorizationColumns, row⟩ ⟨db, false⟩ = .ok r) :
    (0 < row.record.releaseMicrocredits →
      0 ≤ (db.nextBalance (reconcilePosting call.now row.record)).val) ∧
    r.2 = ⟨(db.refund (reconcilePosting call.now row.record)).updateAuthorization row.id
      (AuthorizationRow.reconcileRelease (reconcileMeta call row.record) call.now),
      false⟩ := by
  unfold reconcileRow at h
  obtain ⟨record, hrec, h⟩ := TxM.ofResult_bind_eq_ok.1 h
  obtain rfl : row.record = record := Except.ok.inj hrec
  split at h
  · rename_i hpos
    obtain ⟨hn, -, h | ⟨b, db₁, hreq, -⟩⟩ := applyCreditDeltaInner_bind_eq_ok h
    · obtain ⟨-, db₂, hup, h⟩ := TxM.execute_bind_eq_ok.1 h
      obtain rfl := Option.some.inj hup
      refine ⟨fun _ => hn, ?_⟩
      rw [TxM.pure_eq_ok.1 h,
        Db.refund_of_pos (p := reconcilePosting call.now row.record) hpos]
      rfl
    · cases hreq
  · rename_i hpos
    obtain ⟨-, db₂, hup, h⟩ := TxM.execute_bind_eq_ok.1 h
    obtain rfl := Option.some.inj hup
    refine ⟨fun h => absurd h hpos, ?_⟩
    rw [TxM.pure_eq_ok.1 h,
      Db.refund_of_not_pos (p := reconcilePosting call.now row.record) hpos]
    rfl

/-- The sweep closes the holds of the rows it reads, one after the other. The
rows were read before the first of them was closed: they are distinct, so that
closing one leaves the others as they were read. -/
theorem reconcileRows_simulates (rows : List AuthorizationRow)
    {stats : BillingReconcileStats} {r : BillingReconcileStats × Tx}
    (hwf : db.book.WellFormed) (hnd : (rows.map AuthorizationRow.id).Nodup)
    (hrows : ∀ row ∈ rows, row ∈ db.authorizations ∧ row.status ≠ .released)
    (h : reconcileRows call stats (rows.map fun row => ⟨authorizationColumns, row⟩)
      ⟨db, false⟩ = .ok r) :
    r.2.aborted = false ∧
      Simulates db (rows.map fun row => .close row.id) r.2.db := by
  induction rows generalizing db stats with
  | nil =>
      rw [TxM.pure_eq_ok.1 h]
      exact ⟨rfl, Simulates.refl db⟩
  | cons row rows ih =>
      rw [List.map_cons, reconcileRows] at h
      obtain ⟨stats', tx, hone, h⟩ := TxM.bind_eq_ok.1 h
      obtain ⟨hn, rfl : tx = _⟩ := reconcileRow_eq_ok hone
      obtain ⟨hrow, hst⟩ := hrows row List.mem_cons_self
      have hclose := Simulates.close
        (g := AuthorizationRow.reconcileRelease (reconcileMeta call row.record) call.now)
        hrow hst hn (reconcilePosting_postsFor call.now row) rfl
        (val_releaseMicrocredits hwf hrow) (fun _ => rfl) (fun _ => rfl) (fun _ => rfl)
      rw [List.map_cons, List.nodup_cons] at hnd
      have hwf' := Step.wellFormed (Run.single_iff.1 hclose.run) hwf
      have hrest : ∀ x ∈ rows, x ∈ ((db.refund
          (reconcilePosting call.now row.record)).updateAuthorization row.id
          (AuthorizationRow.reconcileRelease (reconcileMeta call row.record)
            call.now)).authorizations ∧ x.status ≠ .released := by
        intro x hx
        obtain ⟨hxa, hxs⟩ := hrows x (List.mem_cons_of_mem _ hx)
        have hne : x.id ≠ row.id := fun heq => hnd.1 (heq ▸ List.mem_map_of_mem hx)
        have hxa' : x ∈ (db.refund
            (reconcilePosting call.now row.record)).authorizations := by
          unfold Db.refund
          split
          · exact hxa
          · exact hxa
        exact ⟨Db.mem_updateAuthorization.2 ⟨x, hxa', if_neg hne⟩, hxs⟩
      obtain ⟨hab, hsim⟩ := ih hwf' hnd.2 hrest h
      exact ⟨hab, hclose.trans hsim⟩

/-- The rows that the sweep reads. -/
def sweepRows (call : BillingCall) (req : BillingReconcileRequest) (db : Db) :
    List AuthorizationRow :=
  ((db.authorizations.filter (AuthorizationRow.stale call.now
    (call.now - seconds (min (max req.staleSec 60) (30 * 24 * 60 * 60))))).insertionSort
    fun a b => a.updatedAt ≤ b.updatedAt).take (min (max req.batchSize 1) 5000)

theorem mem_sweepRows {req : BillingReconcileRequest} (h : row ∈ sweepRows call req db) :
    row ∈ db.authorizations ∧ row.status ≠ .released := by
  have hmem := List.mem_of_mem_take h
  rw [List.mem_insertionSort, List.mem_filter] at hmem
  obtain ⟨ha, hstale⟩ := hmem
  refine ⟨ha, fun hst => ?_⟩
  simp [AuthorizationRow.stale, hst] at hstale

theorem nodup_sweepRows (call : BillingCall) (req : BillingReconcileRequest)
    (hwf : db.book.WellFormed) :
    ((sweepRows call req db).map AuthorizationRow.id).Nodup := by
  have hids : (db.authorizations.map AuthorizationRow.id).Nodup := by
    have := hwf.ids
    rwa [Db.book, List.map_map] at this
  refine List.Nodup.sublist ((List.take_sublist _ _).map _) ?_
  rw [((List.perm_insertionSort _ _).map AuthorizationRow.id).nodup_iff]
  exact List.Nodup.sublist (List.filter_sublist.map _) hids

theorem billingReconcileOnce_simulates {req : BillingReconcileRequest} {r : BillingReconcileStats}
    (hwf : db.book.WellFormed) (h : billingReconcileOnce call req db = (.ok r, db')) :
    Simulates db ((sweepRows call req db).map fun row => .close row.id) db' := by
  unfold billingReconcileOnce at h
  obtain ⟨tx, hx, rfl⟩ := TxM.transaction_eq_ok.1 h
  obtain ⟨-, hx⟩ := TxM.query_bind_eq_ok.1 hx
  have hsim := reconcileRows_simulates (sweepRows call req db) hwf
    (nodup_sweepRows call req hwf) (fun _ hrow => mem_sweepRows hrow) hx
  rw [hsim.1]
  exact hsim.2

end CodexPool
