import CodexPool.Tenant.CreditSummary

/-!
# The credit summary after a run

A run of the billing operations and of corrections keeps, for a tenant, what the rows of the
month say was consumed equal to what its authorizations captured, and its ledger in balance
with their net debits, as long as every correction of the tenant's authorizations is exact:
it asks for more, and finds the authorization closed, or captured above its reservation.
-/

namespace CodexPool

open Saturating HoldLedger

/-- A call of a billing operation, or of the correction of a captured amount. -/
inductive CreditOp where
  | billing (op : BillingOp)
  | adjust (call : BillingCall) (tenantId : Uuid) (requestId model : String)
      (inputTokens cachedInputTokens outputTokens reasoningTokens : I64)
      (apiKeyId : Option Uuid) (serviceTier : Option String)

namespace CreditOp

def now : CreditOp → DateTime
  | billing op => op.now
  | adjust call .. => call.now

/-- The tables after an operation. -/
def run : CreditOp → Db → Db
  | billing op, db => op.run db
  | adjust call t requestId model i c o r apiKeyId tier, db =>
    (reconcileAdjustCapturedAmount call t requestId model i c o r apiKeyId tier db).2

def granted (t : Uuid) : CreditOp → Db → Int
  | billing op, db => op.granted t db
  | adjust .., _ => 0

end CreditOp

def runCredits : List CreditOp → Db → Db
  | [], db => db
  | op :: ops, db => runCredits ops (op.run db)

def grantedCredits (t : Uuid) : List CreditOp → Db → Int
  | [], _ => 0
  | op :: ops, db => op.granted t db + grantedCredits t ops (op.run db)

/-- The correction of an authorization to the charge `expected` changes nothing, fails for
want of credits, or debits the tenant with what its closed authorization then costs more. -/
def AuthorizationRow.CorrectedExactly (row : AuthorizationRow) (balance expected : I64) : Prop :=
  row.capturedMicrocredits = expected ∨
    balance.val + row.capturedMicrocredits.val < expected.val ∨
    row.capturedMicrocredits < expected ∧
      (row.status = .released ∨
        row.status = .captured ∧ row.reservedMicrocredits ≤ row.capturedMicrocredits)

/-- The operation corrects the authorizations of the tenant exactly. -/
def CreditOp.Exact (t : Uuid) : CreditOp → Db → Prop
  | billing _, _ => True
  | adjust call t' requestId model i c o r _ tier, db =>
    t' = t → ∀ row ∈ db.findAuthorization t' requestId, ∀ expected,
      expectedCharge call model (BillableUsage.ofTokens i c o r) tier row = .ok expected →
      row.CorrectedExactly (db.balance t) expected

instance (row : AuthorizationRow) (balance expected : I64) :
    Decidable (row.CorrectedExactly balance expected) :=
  inferInstanceAs (Decidable (_ ∨ _ ∨ _ ∧ (_ ∨ _ ∧ _)))

instance decidableForallOk {α : Type} (x : Result α) (P : α → Prop) [DecidablePred P] :
    Decidable (∀ a, x = .ok a → P a) :=
  match x with
  | .error _ => isTrue nofun
  | .ok a => decidable_of_iff (P a)
      ⟨fun h _ ha => Except.ok.inj ha ▸ h, fun h => h a rfl⟩

instance (t : Uuid) : (op : CreditOp) → (db : Db) → Decidable (op.Exact t db)
  | .billing _, _ => .isTrue trivial
  | .adjust .., _ => inferInstanceAs (Decidable (_ → ∀ row ∈ (_ : Option _), ∀ _, _ = _ → _))

/-- Every operation of the run corrects the authorizations of the tenant exactly. -/
def ExactRun (t : Uuid) : List CreditOp → Db → Prop
  | [], _ => True
  | op :: ops, db => op.Exact t db ∧ ExactRun t ops (op.run db)

instance instDecidableExactRun (t : Uuid) : (ops : List CreditOp) → (db : Db) →
    Decidable (ExactRun t ops db)
  | [], _ => .isTrue trivial
  | op :: ops, db =>
    haveI := instDecidableExactRun t ops (op.run db)
    inferInstanceAs (Decidable (op.Exact t db ∧ ExactRun t ops (op.run db)))

def Db.capturedSum (db : Db) (t : Uuid) : Int :=
  ((db.authorizations.filter (·.tenantId = t)).map (·.capturedMicrocredits.val)).sum

theorem Db.capturedSum_eq_capturedAt (db : Db) (t : Uuid) :
    db.capturedSum t = db.book.capturedAt t := by
  simp only [capturedSum, book, Book.capturedAt, Table.sumOver, List.filter_map, List.map_map]
  rfl

/-! ## What is kept -/

/-- What a run keeps for a tenant: `start` is its balance at the start and `granted` what it
was granted since then. -/
structure Accounted (t : Uuid) (monthStart : DateTime) (start granted : Int) (db : Db) : Prop where
  wellFormed : db.book.WellFormed
  uncaptured : db.book.UncapturedAt t
  balanced : db.Balanced
  total : db.book.total t + db.book.debited t = start + granted
  consumed : consumedTotal (db.monthRows t monthStart) = some (db.book.capturedAt t)

theorem consumedTotal_monthRows_append {t : Uuid} {monthStart : DateTime} {db db' : Db}
    {rows : List LedgerRow} {a b : Int} (hledger : db'.ledger = db.ledger ++ rows)
    (ha : consumedTotal (db.monthRows t monthStart) = some a)
    (hb : consumedTotal (rows.filter fun row =>
      row.tenantId = t ∧ monthStart ≤ row.createdAt) = some b) :
    consumedTotal (db'.monthRows t monthStart) = some (a + b) := by
  rw [Db.monthRows, hledger, List.filter_append]
  exact consumedTotal_append ha hb

theorem consumedTotal_filter_singleton {t : Uuid} {monthStart : DateTime} {row : LedgerRow}
    {n : Int} (hmonth : monthStart ≤ row.createdAt)
    (hconsumed : row.consumedMicrocredits = some n) :
    consumedTotal ([row].filter fun row => row.tenantId = t ∧ monthStart ≤ row.createdAt) =
      some (if row.tenantId = t then n else 0) := by
  by_cases ht : row.tenantId = t
  · simp [ht, hmonth, consumedTotal, hconsumed]
  · simp [ht, consumedTotal]

/-- The moves of an operation that is no capture settle nothing. -/
theorem BillingOp.simulates_unsettled {op : BillingOp} (hop : op.uncharged = true) {db : Db}
    (hwf : db.book.WellFormed) :
    ∃ ms, Simulates db ms (op.run db) ∧ ∀ m ∈ ms, ∀ i c, m ≠ .settle i c := by
  cases op with
  | recharge call t' req =>
      rcases hr : adminRechargeTenant call t' req db with ⟨⟨e⟩ | ⟨r⟩, db'⟩
      all_goals have hrun : (recharge call t' req).run db = db' := congrArg Prod.snd hr
      · obtain rfl := adminRechargeTenant_error hr
        exact ⟨[], hrun.symm ▸ Simulates.refl db', by simp⟩
      · exact ⟨_, hrun.symm ▸ adminRechargeTenant_simulates hr, by simp⟩
  | checkin call t' =>
      rcases hr : dailyCheckin call t' db with ⟨⟨e⟩ | ⟨r⟩, db'⟩
      all_goals have hrun : (checkin call t').run db = db' := congrArg Prod.snd hr
      · obtain rfl := TxM.transaction_error hr
        exact ⟨[], hrun.symm ▸ Simulates.refl db', by simp⟩
      · exact ⟨_, hrun.symm ▸ dailyCheckin_simulates hr, by simp⟩
  | authorize call req =>
      rcases hr : billingAuthorize call req db with ⟨⟨e⟩ | ⟨r⟩, db'⟩
      all_goals have hrun : (authorize call req).run db = db' := congrArg Prod.snd hr
      · obtain rfl := billingAuthorize_error hr
        exact ⟨[], hrun.symm ▸ Simulates.refl db', by simp⟩
      · rcases billingAuthorize_simulates hr with hsim | hsim
        · exact ⟨_, hrun.symm ▸ hsim, by simp⟩
        · exact ⟨_, hrun.symm ▸ hsim, by simp⟩
  | capture call req => cases hop
  | release call req =>
      have hcloses : (release call req).closes = true := rfl
      obtain ⟨ids, hsim⟩ := BillingOp.simulates_closes hcloses hwf
      exact ⟨_, hsim, by simp⟩
  | reconcileOnce call req =>
      have hcloses : (reconcileOnce call req).closes = true := rfl
      obtain ⟨ids, hsim⟩ := BillingOp.simulates_closes hcloses hwf
      exact ⟨_, hsim, by simp⟩

theorem LedgerRow.consumedMicrocredits_of_capture {row : LedgerRow} {charged : I64}
    (hevent : row.eventType = .capture)
    (hmeta : row.metaJson.get "charged_microcredits" = some (.int charged.val))
    (hpos : 0 ≤ charged.val) (hdelta : charged.val = 0 → 0 ≤ row.deltaMicrocredits.val) :
    row.consumedMicrocredits = some charged.val := by
  obtain ⟨x, hx, hval⟩ := toBigint_of_mem charged.lo_le charged.le_hi
  have hcharged : row.chargedMicrocredits = some charged.val := by
    simp only [chargedMicrocredits, hmeta, Json.int, hx, Option.map_some, hval]
  simp only [consumedMicrocredits, hevent, hcharged, Option.bind_some]
  split
  · rfl
  · next hzero =>
      have hzero : charged.val = 0 := by omega
      rw [hzero]
      exact if_neg (not_lt.2 (hdelta hzero))

theorem LedgerRow.consumedMicrocredits_of_adjust {row : LedgerRow}
    (hevent : row.eventType = .adjust)
    (hmin : -9223372036854775807 ≤ row.deltaMicrocredits.val) :
    row.consumedMicrocredits = some (max (-row.deltaMicrocredits.val) 0) := by
  have hmax := row.deltaMicrocredits.lo_le
  simp only [consumedMicrocredits, hevent, takenMicrocredits]
  split
  · next hneg =>
      have hneg : row.deltaMicrocredits.val < 0 := hneg
      obtain ⟨x, hx, hval⟩ :=
        toBigint_of_mem (n := -row.deltaMicrocredits.val) (by omega) (by omega)
      rw [hx, Option.map_some, hval, max_eq_left (by omega)]
  · next hpos =>
      have hpos : 0 ≤ row.deltaMicrocredits.val := not_lt.1 hpos
      rw [max_eq_right (by omega)]

theorem capturePosting_meta (call : BillingCall) (req : BillingCaptureRequest)
    (record : BillingAuthorizationRecord) (decision : BillingPricingDecision) (balance : I64) :
    ((capturePosting call req record decision).ledgerRow balance).metaJson.get
      "charged_microcredits" = some (.int (req.usage.charged decision.pricing).val) := by
  simp [CreditDeltaParams.ledgerRow, capturePosting, Json.get_ofFields, Json.lookupField,
    pricingFields, usageFields]

theorem capturePosting_consumed {call : BillingCall} {req : BillingCaptureRequest}
    {row : AuthorizationRow} {decision : BillingPricingDecision} {balance : I64}
    (hres : 0 < row.reservedMicrocredits.val) :
    ((capturePosting call req row.record decision).ledgerRow balance).consumedMicrocredits =
      some (req.usage.charged decision.pricing).val := by
  have hnonneg : 0 ≤ (req.usage.charged decision.pricing).val :=
    calculateChargedMicrocredits_nonneg _ _ _ _
  refine LedgerRow.consumedMicrocredits_of_capture rfl (capturePosting_meta _ _ _ _ _) hnonneg
    fun hzero => ?_
  -- nothing is charged, and so nothing beyond the reservation
  have hmax := I64.val_satSub_max_zero hnonneg (le_of_lt hres)
  change (0 : Int) ≤ (-max ((req.usage.charged decision.pricing).satSub
    row.reservedMicrocredits) 0 : I64).val
  rw [I64.val_neg (by rw [hmax]; exact le_max_right _ _), hmax]
  omega

namespace Accounted

variable {t : Uuid} {monthStart : DateTime} {start granted : Int} {db : Db}

theorem uncharged (h : Accounted t monthStart start granted db) {op : BillingOp}
    (hop : op.uncharged = true) :
    consumedTotal ((op.run db).monthRows t monthStart) = some ((op.run db).book.capturedAt t) := by
  obtain ⟨rows, hledger, hrows⟩ := op.appends hop db
  obtain ⟨ms, hsim, hms⟩ := op.simulates_unsettled hop h.wellFormed
  rw [hsim.run.capturedAt_eq h.wellFormed hms t, ← add_zero (db.book.capturedAt t)]
  exact consumedTotal_monthRows_append hledger h.consumed
    (consumedTotal_eq_zero fun row hrow => (hrows row (List.mem_of_mem_filter hrow)).2)

/-- A capture consumes what it charges, and its hold had captured nothing. -/
theorem capture (h : Accounted t monthStart start granted db) {call : BillingCall}
    {req : BillingCaptureRequest} (hmonth : monthStart ≤ call.now) :
    consumedTotal ((billingCapture call req db).2.monthRows t monthStart) =
      some ((billingCapture call req db).2.book.capturedAt t) := by
  rcases hr : billingCapture call req db with ⟨⟨e⟩ | ⟨r⟩, db'⟩
  · rw [billingCapture_error hr]
    exact h.consumed
  obtain ⟨row, hfind, ⟨-, rfl⟩ | ⟨hopen, decision, sessions, hdec, -, -, rfl⟩⟩ :=
    billingCapture_eq_ok_posting hr
  · exact h.consumed
  obtain ⟨hrow, htid, -⟩ := Db.findAuthorization_eq_some hfind
  have hmem : row.hold ∈ db.book.holds := List.mem_map_of_mem hrow
  have hres : 0 < row.reservedMicrocredits.val := h.wellFormed.reserved_pos _ hmem
  have hcaptured : ∀ g : AuthorizationRow → AuthorizationRow,
      (∀ a, (g a).hold = Hold.settle (req.usage.charged decision.pricing).val a.hold) →
      ((db.post (capturePosting call req row.record decision)).updateAuthorization row.id
        g).book.capturedAt t = db.book.capturedAt t +
          if row.tenantId = t then (req.usage.charged decision.pricing).val else 0 := by
    intro g hg
    rw [Db.book_updateAuthorization _ _ hg, Db.book_post]
    have hupdate := Book.capturedAt_update (b := db.book.post [((capturePosting call req
      row.record decision).ledgerRow (db.nextBalance (capturePosting call req row.record
        decision))).entry]) (g := Hold.settle (req.usage.charged decision.pricing).val)
      h.wellFormed.ids hmem rfl t
    refine hupdate.trans (congrArg (db.book.capturedAt t + ·) ?_)
    by_cases ht : row.tenantId = t
    · have hzero : row.capturedMicrocredits.val = 0 :=
        h.uncaptured row.hold hmem ht (by rw [AuthorizationRow.hold, hopen]; rfl)
      simp [AuthorizationRow.hold, Hold.settle, ht, hzero]
    · simp [AuthorizationRow.hold, ht]
  have hbook := hcaptured (AuthorizationRow.capture (req.apiKeyId.or row.apiKeyId)
    (row.model.getD (Text.trim req.model)) (req.usage.charged decision.pricing)
    (captureMeta call req row.record decision) call.now) fun _ => rfl
  refine (consumedTotal_monthRows_append rfl h.consumed
    (consumedTotal_filter_singleton hmonth (capturePosting_consumed hres))).trans ?_
  refine congrArg some (Eq.trans ?_ hbook.symm)
  exact congrArg (fun x => db.book.capturedAt t +
    if x = t then (req.usage.charged decision.pricing).val else 0) htid.symm

theorem billing (h : Accounted t monthStart start granted db) (op : BillingOp)
    (hmonth : monthStart ≤ op.now) :
    Accounted t monthStart start (granted + op.granted t db) (op.run db) := by
  obtain ⟨ms, hsim, hgranted⟩ := op.simulates h.wellFormed
  have htotal := hsim.run.conservation h.wellFormed h.uncaptured
  refine ⟨hsim.run.wellFormed h.wellFormed, hsim.run.uncapturedAt h.uncaptured,
    hsim.balanced h.balanced, ?_, ?_⟩
  · rw [htotal, h.total, hgranted, add_assoc]
  · by_cases hop : op.uncharged = true
    · exact h.uncharged hop
    · cases op with
      | capture call req => exact h.capture hmonth
      | _ => exact absurd rfl hop

theorem net_of_correctedExactly (h : Accounted t monthStart start granted db)
    {row : AuthorizationRow} {e : I64} (hrow : row ∈ db.authorizations)
    (hexact : row.CorrectedExactly (db.balance row.tenantId) e)
    (hne : row.capturedMicrocredits ≠ e)
    (hfunded : 0 ≤ (db.balance row.tenantId).val + (row.capturedMicrocredits.val - e.val)) :
    row.status ≠ .authorized ∧ row.capturedMicrocredits.val < e.val ∧
      row.capturedMicrocredits.val - e.val =
        row.hold.net - (correctHold e.val row.hold).net := by
  have hmem : row.hold ∈ db.book.holds := List.mem_map_of_mem hrow
  have hres : 0 < row.reservedMicrocredits.val := h.wellFormed.reserved_pos _ hmem
  rcases hexact with heq | hpoor | ⟨hless, hclosed | ⟨hcaptured, habove⟩⟩
  · exact absurd heq hne
  · omega
  · have hless : row.capturedMicrocredits.val < e.val := hless
    simp [Hold.net, correctHold, AuthorizationRow.hold, AuthorizationStatus.phase, hclosed, hless]
  · have hless : row.capturedMicrocredits.val < e.val := hless
    have habove : row.reservedMicrocredits.val ≤ row.capturedMicrocredits.val := habove
    refine ⟨by simp [hcaptured], hless, ?_⟩
    simp only [Hold.net, correctHold, AuthorizationRow.hold, AuthorizationStatus.phase, hcaptured]
    omega

/-- A correction keeps the accounts of a tenant when it is exact for its authorizations. -/
theorem adjust (h : Accounted t monthStart start granted db) {call : BillingCall} {t' : Uuid}
    {requestId model : String} {i c o r : I64} {apiKeyId : Option Uuid} {tier : Option String}
    (hmonth : monthStart ≤ call.now)
    (hexact : (CreditOp.adjust call t' requestId model i c o r apiKeyId tier).Exact t db) :
    Accounted t monthStart start granted
      ((CreditOp.adjust call t' requestId model i c o r apiKeyId tier).run db) := by
  simp only [CreditOp.run]
  rcases hr : reconcileAdjustCapturedAmount call t' requestId model i c o r apiKeyId tier db with
    ⟨⟨error⟩ | ⟨adjusted⟩, db'⟩
  · rw [TxM.transaction_error hr]
    exact h
  cases hfind : db.findAuthorization t' requestId with
  | none =>
      -- nothing is found, and nothing is written
      obtain ⟨tx, hx, hdb⟩ := TxM.transaction_eq_ok.1 hr
      unfold reconcileAdjustTx at hx
      obtain ⟨-, hx⟩ := fetchAuthorizationForUpdate_bind_eq_ok.1 hx
      rw [hfind] at hx
      obtain ⟨-, rfl⟩ := Prod.mk.inj (TxM.pure_eq_ok.1 hx)
      rw [hdb]
      exact h
  | some row =>
      obtain ⟨hrow, htid, -⟩ := Db.findAuthorization_eq_some hfind
      have hmem : row.hold ∈ db.book.holds := List.mem_map_of_mem hrow
      have hcap : 0 ≤ row.capturedMicrocredits.val := h.wellFormed.captured_nonneg _ hmem
      obtain ⟨e, he, ⟨-, rfl⟩ | ⟨hne, p, fields, hp, hevent, hnow, -, hn, hd, rfl⟩⟩ :=
        reconcileAdjustCapturedAmount_eq_ok hfind hcap hr
      · exact h
      have he₀ := expectedCharge_nonneg he
      have hdelta : p.deltaMicrocredits.val = row.capturedMicrocredits.val - e.val := by
        rw [hd, I64.val_satSub_of_nonneg hcap he₀]
      have hpost : row.tenantId = t → row.status ≠ .authorized ∧
          row.capturedMicrocredits.val < e.val ∧ row.capturedMicrocredits.val - e.val =
            row.hold.net - (correctHold e.val row.hold).net := by
        intro ht
        refine h.net_of_correctedExactly hrow
          (ht.symm ▸ hexact (htid.symm.trans ht) row hfind e he) hne ?_
        have hnext : 0 ≤ ((db.balance p.tenantId).satAdd p.deltaMicrocredits).val := hn
        rw [Bounded.val_satAdd, hp.tenantId, hdelta, clamp] at hnext
        omega
      have hbook := db.book_adjust hp hd hcap he₀ fields call.now
      have hcaptured : ((db.book.post [row.adjustEntry e]).update row.id
          (correctHold e.val)).capturedAt t = db.book.capturedAt t +
            if row.tenantId = t then e.val - row.capturedMicrocredits.val else 0 :=
        Book.capturedAt_update (b := db.book.post _) (g := correctHold e.val)
          h.wellFormed.ids hmem rfl t
      refine ⟨?_, ?_, ?_, ?_, ?_⟩
      · rw [hbook]
        exact Db.wellFormed_adjust h.wellFormed hrow he₀
      · rw [hbook]
        refine Book.UncapturedAt.update (b := db.book.post _) h.uncaptured ?_
        intro x hx hid hacc hheld
        obtain rfl := List.inj_on_of_nodup_map h.wellFormed.ids hx hmem hid
        have hopen : row.status.phase = .held := hheld
        cases hst : row.status with
        | authorized => exact absurd hst (hpost hacc).1
        | captured => rw [hst] at hopen; cases hopen
        | released => rw [hst] at hopen; cases hopen
      · obtain ⟨h₁, h₂⟩ := h.balanced.post hn
        exact ⟨h₁, h₂⟩
      · rw [hbook]
        refine (Book.conservation_post_update (g := correctHold e.val) h.wellFormed.ids hmem rfl t
          ?_).trans h.total
        rw [Table.sumOver_singleton]
        by_cases ht : row.tenantId = t
        · simpa [AuthorizationRow.adjustEntry, AuthorizationRow.hold, ht] using (hpost ht).2.2
        · simp [AuthorizationRow.adjustEntry, AuthorizationRow.hold, ht]
      · rw [hbook, hcaptured]
        have hlow : -9223372036854775807 ≤ p.deltaMicrocredits.val := by
          have := e.le_hi
          omega
        have hconsumed : (p.ledgerRow (db.nextBalance p)).consumedMicrocredits =
            some (max (-p.deltaMicrocredits.val) 0) :=
          LedgerRow.consumedMicrocredits_of_adjust hevent hlow
        have hrow' := consumedTotal_filter_singleton (t := t) (hmonth.trans hnow.ge) hconsumed
        refine consumedTotal_monthRows_append rfl h.consumed (hrow'.trans (congrArg some ?_))
        change (if p.tenantId = t then max (-p.deltaMicrocredits.val) 0 else 0) = _
        rw [hp.tenantId, hdelta]
        by_cases ht : row.tenantId = t
        · have hless := (hpost ht).2.1
          simp only [ht, if_true]
          omega
        · simp only [ht, if_false]

end Accounted

/-! ## Runs -/

structure Db.UnusedBy (db : Db) (t : Uuid) (monthStart : DateTime) : Prop where
  wellFormed : db.book.WellFormed
  balanced : db.Balanced
  saturated : db.saturated = false
  authorizations : ∀ a ∈ db.authorizations, a.tenantId ≠ t
  ledger : ∀ row ∈ db.ledger, row.tenantId = t → row.createdAt < monthStart

theorem Db.UnusedBy.accounted {db : Db} {t : Uuid} {monthStart : DateTime}
    (h : db.UnusedBy t monthStart) : Accounted t monthStart (db.balance t).val 0 db := by
  have hholds : ∀ x ∈ db.book.holds, x.account ≠ t := by
    intro x hx
    obtain ⟨a, ha, rfl⟩ := List.mem_map.1 hx
    exact h.authorizations a ha
  have hdebited : db.book.debited t = 0 :=
    Table.sumOver_eq_zero _ fun x hx => by simp [hholds x hx]
  have hcaptured : db.book.capturedAt t = 0 :=
    Table.sumOver_eq_zero _ fun x hx => by simp [hholds x hx]
  have hrows : db.monthRows t monthStart = [] := by
    refine List.filter_eq_nil_iff.2 fun row hrow => ?_
    have hbefore := h.ledger row hrow
    simpa using hbefore
  refine ⟨h.wellFormed, fun x hx hacc => absurd hacc (hholds x hx), h.balanced, ?_, ?_⟩
  · rw [hdebited, h.balanced.eq_total h.saturated t]
  · rw [hrows, hcaptured]
    rfl

/-- A run of exact corrections and of billing operations keeps the accounts of a tenant. -/
theorem runCredits_accounted {t : Uuid} {monthStart : DateTime} {start granted : Int}
    (ops : List CreditOp) {db : Db} (h : Accounted t monthStart start granted db)
    (hmonth : ∀ op ∈ ops, monthStart ≤ op.now) (hexact : ExactRun t ops db) :
    Accounted t monthStart start (granted + grantedCredits t ops db) (runCredits ops db) := by
  induction ops generalizing db granted with
  | nil => simpa [grantedCredits, runCredits] using h
  | cons op ops ih =>
      rw [List.forall_mem_cons] at hmonth
      have hstep : Accounted t monthStart start (granted + op.granted t db) (op.run db) := by
        cases op with
        | billing op => exact h.billing op hmonth.1
        | adjust call t' requestId model i c o r apiKeyId tier =>
            simpa [CreditOp.granted] using h.adjust hmonth.1 hexact.1
      have hrest := ih hstep hmonth.2 hexact.2
      rwa [add_assoc] at hrest

/-- What the summary should say after a run: that the tenant consumed what its authorizations
captured, and that this is what is gone of its balance and of what it was granted. -/
def SummaryAgrees (dayStart monthStart : DateTime) (t : Uuid) (ops : List CreditOp) (db₀ : Db) :
    Prop :=
  ∃ summary, getCreditSummary dayStart monthStart t (runCredits ops db₀) = .ok summary ∧
    summary.monthConsumedMicrocredits.val = (runCredits ops db₀).capturedSum t ∧
    summary.monthConsumedMicrocredits.val = grantedCredits t ops db₀ + (db₀.balance t).val -
      ((runCredits ops db₀).balance t).val

/-- The summary agrees with the authorizations after every run of the month in which the
tenant's authorizations are corrected exactly, once they are all released. -/
theorem summaryAgrees_of_exactRun (dayStart : DateTime) {monthStart : DateTime} {t : Uuid}
    {db₀ : Db} (h₀ : db₀.UnusedBy t monthStart) {ops : List CreditOp}
    (hmonth : ∀ op ∈ ops, monthStart ≤ op.now) (hexact : ExactRun t ops db₀)
    (hreleased : ∀ a ∈ (runCredits ops db₀).authorizations, a.tenantId = t →
      a.status = .released)
    (hsat : (runCredits ops db₀).saturated = false)
    (hfit : (runCredits ops db₀).capturedSum t ≤ 9223372036854775807) :
    SummaryAgrees dayStart monthStart t ops db₀ := by
  have h := runCredits_accounted ops h₀.accounted hmonth hexact
  have hclosed : (runCredits ops db₀).book.debited t = (runCredits ops db₀).book.capturedAt t := by
    refine Book.debited_of_closed fun x hx hacc => ?_
    obtain ⟨a, ha, rfl⟩ := List.mem_map.1 hx
    have hst := hreleased a ha hacc
    rw [AuthorizationRow.hold, hst]
    rfl
  have htotal := h.total
  have hbalance := h.balanced.eq_total hsat t
  rw [Db.capturedSum_eq_capturedAt] at hfit
  obtain ⟨summary, hsummary, hmonthConsumed, -⟩ :=
    getCreditSummary_of_consumed dayStart h.consumed hfit
  refine ⟨summary, hsummary, ?_, ?_⟩
  · rw [hmonthConsumed, Db.capturedSum_eq_capturedAt]
  · rw [hmonthConsumed]
    omega

/-! A tenant is granted 1000, reserves 100, is charged 60 and released; the request log then
asks for another amount. -/

/-- The run with a correction to the given number of tokens at its end. -/
def correctedRun (inputTokens : I64) : List CreditOp :=
  sampleRun.map .billing ++
    [.billing (.release (sampleCall 3 sampleTenant) sampleRelease),
      .adjust (sampleCall 4 sampleTenant) sampleTenant "req-1" "gpt-5.4" inputTokens 0 0 0 none
        none]

theorem sampleDb_unusedBy : sampleDb.UnusedBy sampleTenant 0 where
  wellFormed := sampleDb_fresh.sound.toWellFormed
  balanced := sampleDb_fresh.balanced
  saturated := rfl
  authorizations := by simp [sampleDb]
  ledger := by simp [sampleDb]

/-- A correction to 80 counts with the charge of 60. -/
theorem summaryAgrees_correctedRun : SummaryAgrees 0 0 sampleTenant (correctedRun 80) sampleDb :=
  summaryAgrees_of_exactRun 0 sampleDb_unusedBy (by decide +kernel) (by decide +kernel)
    (by decide +kernel) (by decide +kernel) (by decide +kernel)

/-- A correction to 40 gives 20 back, which the summary goes on to count as consumed. -/
theorem not_summaryAgrees_correctedRun :
    ¬SummaryAgrees 0 0 sampleTenant (correctedRun 40) sampleDb := by
  have hfacts : ((getCreditSummary 0 0 sampleTenant (runCredits (correctedRun 40)
      sampleDb)).toOption.map fun summary => summary.monthConsumedMicrocredits.val) = some 60 ∧
      (runCredits (correctedRun 40) sampleDb).capturedSum sampleTenant = 40 := by
    decide +kernel
  intro h
  obtain ⟨summary, hsummary, hsum, -⟩ := h
  obtain ⟨hmonth, hcaptured⟩ := hfacts
  rw [hsummary] at hmonth
  have hsixty : summary.monthConsumedMicrocredits.val = 60 := Option.some.inj hmonth
  omega

end CodexPool
