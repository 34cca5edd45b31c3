import CodexPool.Tenant.Conservation

/-!
# Reconciliation with the request log

`reconcileAdjustCapturedAmount` moves the captured amount of a hold to the
charge that the request log asks for. It posts the difference to the captured
amount, while a release after it refunds the difference of the reservation to
the new amount. The two postings compose to the expected charge exactly when
the hold was closed before, or when the adjustment does not change how much of
the reservation is left.

`billingReconcileRequestFact` reads the hold by another query than the billing
transactions. That query does not select the metadata which the decoder reads.
-/

namespace CodexPool

open Saturating HoldLedger

def expectedCharge (call : BillingCall) (model : String) (usage : BillableUsage)
    (serviceTier : Option String) (row : AuthorizationRow) : Result I64 :=
  (adjustPricing call model usage serviceTier row.record).map fun decision =>
    usage.charged decision.pricing

variable {call : BillingCall} {model rid : String} {row : AuthorizationRow}

theorem expectedCharge_nonneg {usage : BillableUsage} {serviceTier : Option String}
    {e : I64} (h : expectedCharge call model usage serviceTier row = .ok e) :
    0 ≤ e.val := by
  unfold expectedCharge at h
  obtain ⟨decision, -, rfl⟩ := Except.map_eq_ok h
  exact calculateChargedMicrocredits_nonneg _ _ _ _

theorem adjustPosting_postsFor (now : DateTime) (rid model : String)
    (usage : BillableUsage) (apiKeyId : Option Uuid) (tier : Option String)
    (row : AuthorizationRow) (decision : BillingPricingDecision) :
    PostsFor row
      (adjustPosting now row.tenantId rid model usage apiKeyId tier row.record decision) := by
  refine ⟨rfl, fun b => ?_⟩
  simp [LedgerRow.authorizationId, CreditDeltaParams.ledgerRow, adjustPosting,
    adjustFields, usageFields, Json.getStr, Json.get_ofFields, Json.lookupField, jsonUuid,
    Json.asStr, AuthorizationRow.record]

variable {db : Db}

/-- What an adjustment that succeeds does to the authorization it finds. -/
theorem reconcileAdjustCapturedAmount_eq_ok {t : Uuid} {i c o re : I64} {apiKeyId : Option Uuid}
    {tier : Option String} {db' : Db} {adjusted : Bool}
    (hfind : db.findAuthorization t rid = some row) (hcap : 0 ≤ row.capturedMicrocredits.val)
    (h : reconcileAdjustCapturedAmount call t rid model i c o re apiKeyId tier db =
      (.ok adjusted, db')) :
    ∃ e, expectedCharge call model (BillableUsage.ofTokens i c o re) tier row = .ok e ∧
      (row.capturedMicrocredits = e ∧ db' = db ∨
        row.capturedMicrocredits ≠ e ∧ ∃ p fields, PostsFor row p ∧
          p.eventType = .adjust ∧ p.now = call.now ∧
          p.requestId = none ∧ 0 ≤ (db.nextBalance p).val ∧
          p.deltaMicrocredits = row.capturedMicrocredits.satSub e ∧
          db' = (db.post p).updateAuthorization row.id
            (AuthorizationRow.adjust e fields call.now)) := by
  obtain ⟨-, rfl, -⟩ := Db.findAuthorization_eq_some hfind
  obtain ⟨tx, hx, rfl⟩ := TxM.transaction_eq_ok.1 h
  unfold reconcileAdjustTx at hx
  obtain ⟨-, hx⟩ := fetchAuthorizationForUpdate_bind_eq_ok.1 hx
  rw [hfind] at hx
  simp only [Option.map_some] at hx
  obtain ⟨decision, hdec, hx⟩ := TxM.ofResult_bind_eq_ok.1 hx
  have hexp : expectedCharge call model (BillableUsage.ofTokens i c o re) tier row =
      .ok ((BillableUsage.ofTokens i c o re).charged decision.pricing) := by
    rw [expectedCharge, hdec]
    rfl
  refine ⟨_, hexp, ?_⟩
  split at hx
  · left
    rename_i heq
    obtain ⟨-, rfl⟩ := Prod.mk.inj (TxM.pure_eq_ok.1 hx)
    exact ⟨heq, rfl⟩
  right
  rename_i hne
  split at hx
  · obtain ⟨hn, -, hx | ⟨b, db₁, hreq, -⟩⟩ := applyCreditDeltaInner_bind_eq_ok hx
    · obtain ⟨-, db₂, hup, hx⟩ := TxM.execute_bind_eq_ok.1 hx
      obtain ⟨-, rfl⟩ := Prod.mk.inj (TxM.pure_eq_ok.1 hx)
      obtain rfl := Option.some.inj hup
      exact ⟨hne, _, _, adjustPosting_postsFor _ _ _ _ _ _ _ _, rfl, rfl, rfl, hn, rfl, rfl⟩
    · cases hreq
  · -- two different amounts that are not negative differ by something
    rename_i hzero
    have hval := I64.val_satSub_of_nonneg hcap (expectedCharge_nonneg hexp)
    rw [not_not] at hzero
    have hsub : (row.capturedMicrocredits.satSub
        ((BillableUsage.ofTokens i c o re).charged decision.pricing)).val = 0 :=
      congrArg Bounded.val hzero
    have heq : row.capturedMicrocredits.val =
        ((BillableUsage.ofTokens i c o re).charged decision.pricing).val := by omega
    exact absurd (Bounded.ext heq) hne

/-! ## The adjustment and the release after it -/

/-- The operations that close holds. -/
def BillingOp.closes : BillingOp → Bool
  | .release _ _ => true
  | .reconcileOnce _ _ => true
  | _ => false

def Db.Closed (db : Db) (id : Uuid) : Prop :=
  ∃ a ∈ db.authorizations, a.id = id ∧ a.status = .released

/-- A closing operation makes closing moves only. -/
theorem BillingOp.simulates_closes {op : BillingOp} (hop : op.closes = true)
    (hwf : db.book.WellFormed) :
    ∃ ids : List Uuid, Simulates db (ids.map .close) (op.run db) := by
  cases op with
  | release call req =>
      rcases hr : billingRelease call req db with ⟨⟨e⟩ | ⟨r⟩, db'⟩
      all_goals have hrun : (release call req).run db = db' := congrArg Prod.snd hr
      · obtain rfl := billingRelease_error hr
        exact ⟨[], hrun.symm ▸ Simulates.refl db'⟩
      · rcases billingRelease_simulates hwf hr with hsim | ⟨id, hsim⟩
        · exact ⟨[], hrun.symm ▸ hsim⟩
        · exact ⟨[id], hrun.symm ▸ hsim⟩
  | reconcileOnce call req =>
      rcases hr : billingReconcileOnce call req db with ⟨⟨e⟩ | ⟨r⟩, db'⟩
      all_goals have hrun : (reconcileOnce call req).run db = db' :=
        congrArg Prod.snd hr
      · obtain rfl := TxM.transaction_error hr
        exact ⟨[], hrun.symm ▸ Simulates.refl db'⟩
      · refine ⟨(sweepRows call req db).map AuthorizationRow.id, ?_⟩
        rw [List.map_map]
        exact hrun.symm ▸ billingReconcileOnce_simulates hwf hr
  | recharge | checkin | authorize | capture => cases hop

/-- Closing a hold adds what is unused of it to its entries. -/
theorem totalOf_of_closed {op : BillingOp} (hop : op.closes = true)
    (hwf : db.book.WellFormed) {a : AuthorizationRow} (ha : a ∈ db.authorizations)
    (hclosed : (op.run db).Closed a.id) :
    (op.run db).book.totalOf a.id =
      db.book.totalOf a.id + if a.status = .released then 0 else a.hold.unused := by
  obtain ⟨ids, hsim⟩ := BillingOp.simulates_closes hop hwf
  have hmem : a.hold ∈ db.book.holds := List.mem_map_of_mem ha
  rcases hsim.run.closes hwf hmem with ⟨hphase, -, htot⟩ | ⟨hsame, htot⟩
  · have hst : a.status ≠ .released := by
      intro hst
      apply hphase
      rw [AuthorizationRow.hold, hst]
      rfl
    rw [if_neg hst]
    exact htot
  · -- the hold is unchanged and closed, so it was closed before
    obtain ⟨a', ha', hid, hst'⟩ := hclosed
    have hids := (hsim.run.wellFormed hwf).ids
    have heq : a'.hold = a.hold :=
      List.inj_on_of_nodup_map hids (List.mem_map_of_mem ha') hsame hid
    have hst : a.status = .released := by
      have hphase : a'.status.phase = a.status.phase := congrArg Hold.phase heq
      rw [hst'] at hphase
      cases hs : a.status <;> rw [hs] at hphase <;> first | rfl | cases hphase
    rw [if_pos hst, add_zero]
    exact htot

/-- The entry of an adjustment to the charge `e`. -/
def AuthorizationRow.adjustEntry (row : AuthorizationRow) (e : I64) : Entry Uuid Uuid :=
  ⟨row.tenantId, some row.id, row.capturedMicrocredits.val - e.val⟩

/-- The hold with a corrected amount. -/
def correctHold (captured : Int) (h : Hold Uuid Uuid) : Hold Uuid Uuid := { h with captured }

variable (db : Db) in
theorem Db.book_adjust {p : CreditDeltaParams} {e : I64}
    (hp : PostsFor row p) (hd : p.deltaMicrocredits = row.capturedMicrocredits.satSub e)
    (hcap : 0 ≤ row.capturedMicrocredits.val) (he : 0 ≤ e.val) (fields : Json) (now : DateTime) :
    ((db.post p).updateAuthorization row.id (AuthorizationRow.adjust e fields now)).book =
      (db.book.post [row.adjustEntry e]).update row.id (correctHold e.val) := by
  rw [Db.book_updateAuthorization (k := (correctHold e.val)) _ _
    fun _ => rfl, Db.book_post, hp.entry, hd, I64.val_satSub_of_nonneg hcap he]
  rfl

theorem Db.wellFormed_adjust {e : I64}
    (hwf : db.book.WellFormed) (hrow : row ∈ db.authorizations) (he : 0 ≤ e.val) :
    ((db.book.post [row.adjustEntry e]).update row.id
      (correctHold e.val)).WellFormed := by
  refine (hwf.post ?_).update _ (fun _ => rfl) (fun _ => rfl) fun _ _ => he
  intro en hen j hj
  rw [List.mem_singleton.1 hen] at hj
  exact ⟨row.hold, List.mem_map_of_mem hrow, Option.some.inj hj⟩

/-- The authorization after an adjustment, and the entries of its hold. -/
theorem exists_adjusted {t : Uuid}
    {i c o re : I64} {apiKeyId : Option Uuid} {tier : Option String} {adjusted : Bool}
    {db₁ : Db} {e : I64} (hwf : db.book.WellFormed) (hfind : db.findAuthorization t rid = some row)
    (hadj : reconcileAdjustCapturedAmount call t rid model i c o re apiKeyId tier db =
      (.ok adjusted, db₁))
    (he : expectedCharge call model (BillableUsage.ofTokens i c o re) tier row = .ok e) :
    db₁.book.WellFormed ∧
      db₁.book.totalOf row.id =
        db.book.totalOf row.id + (row.capturedMicrocredits.val - e.val) ∧
      ∃ a ∈ db₁.authorizations, a.id = row.id ∧ a.status = row.status ∧
        a.reservedMicrocredits = row.reservedMicrocredits ∧
        a.capturedMicrocredits = e := by
  obtain ⟨hrow, -, -⟩ := Db.findAuthorization_eq_some hfind
  have hmem : row.hold ∈ db.book.holds := List.mem_map_of_mem hrow
  have hcap : 0 ≤ row.capturedMicrocredits.val := hwf.captured_nonneg _ hmem
  have he₀ := expectedCharge_nonneg he
  obtain ⟨e', he', ⟨rfl, rfl⟩ | ⟨-, p, fields, hp, -, -, -, -, hd, rfl⟩⟩ :=
    reconcileAdjustCapturedAmount_eq_ok hfind hcap hadj
  all_goals obtain rfl := Except.ok.inj (he.symm.trans he')
  · refine ⟨hwf, by omega, row, hrow, rfl, rfl, rfl, rfl⟩
  · have hbook := db.book_adjust hp hd hcap he₀ fields call.now
    refine ⟨?_, ?_, _, Db.mem_updateAuthorization.2 ⟨row, hrow, rfl⟩, ?_⟩
    · rw [hbook]
      exact Db.wellFormed_adjust hwf hrow he₀
    · rw [hbook]
      change Book.totalOf (db.book.post _) row.id = _
      rw [Book.totalOf_post, Table.sumOver_singleton]
      simp [AuthorizationRow.adjustEntry]
    · rw [if_pos rfl]
      exact ⟨rfl, rfl, rfl, rfl⟩

/-- From every state that a run of the billing operations reaches, an adjustment
of a captured or released authorization to the expected charge `e`, followed by
an operation that leaves it closed, makes its ledger rows add up to `-e` exactly
when it was released before the adjustment, or the captured amount was `e`
already, or neither the captured amount nor `e` is below the reservation. -/
theorem reconcileAdjust_close_total {db₀ : Db} (h₀ : db₀.Fresh) (ops : List BillingOp)
    {call : BillingCall} {t : Uuid} {rid model : String} {i c o re : I64}
    {apiKeyId : Option Uuid} {tier : Option String} {adjusted : Bool}
    {row : AuthorizationRow} {db₁ : Db} {e : I64} {op : BillingOp}
    (hfind : (runOps ops db₀).findAuthorization t rid = some row)
    (hst : row.status = .captured ∨ row.status = .released)
    (hadj : reconcileAdjustCapturedAmount call t rid model i c o re apiKeyId tier
      (runOps ops db₀) = (.ok adjusted, db₁))
    (he : expectedCharge call model (BillableUsage.ofTokens i c o re) tier row = .ok e)
    (hop : op.closes = true) (hclosed : (op.run db₁).Closed row.id) :
    (op.run db₁).authorizationTotal row.id = -e.val ↔
      row.status = .released ∨ e = row.capturedMicrocredits ∨
        row.reservedMicrocredits ≤ row.capturedMicrocredits ∧
          row.reservedMicrocredits ≤ e := by
  obtain ⟨ms, hsim, -⟩ := runOps_simulates ops h₀.sound
  have hs := hsim.run.sound h₀.sound
  obtain ⟨hrow, -, -⟩ := Db.findAuthorization_eq_some hfind
  have hmem : row.hold ∈ (runOps ops db₀).book.holds := List.mem_map_of_mem hrow
  have htot : (runOps ops db₀).book.totalOf row.id = -row.hold.net :=
    hs.totalOf_eq row.hold hmem
  obtain ⟨hwf₁, htot₁, a, ha, hid, hast, hares, hacap⟩ :=
    exists_adjusted hs.toWellFormed hfind hadj he
  have hclose := totalOf_of_closed hop hwf₁ ha (hid.symm ▸ hclosed)
  rw [hid, htot₁, htot] at hclose
  rw [Db.authorizationTotal_eq_totalOf, hclose, hast]
  simp only [Bounded.eq_iff_val, Bounded.le_iff_val, AuthorizationRow.hold, Hold.unused,
    Hold.net, hares, hacap]
  rcases hst with hst | hst
  · simp only [hst, AuthorizationStatus.phase, reduceCtorEq, if_false, false_or]
    omega
  · simp only [hst, AuthorizationStatus.phase, if_true, true_or, iff_true]
    omega

instance (db : Db) (id : Uuid) : Decidable (db.Closed id) :=
  inferInstanceAs (Decidable (∃ a ∈ db.authorizations, a.id = id ∧ a.status = .released))

/-! The hold of `sampleRun` reserves 100 and is captured at 60; the request log
asks for 80. -/

def sampleRow : AuthorizationRow :=
  ((runOps sampleRun sampleDb).findAuthorization sampleTenant "req-1").get
    (by decide +kernel)

def sampleAdjust : Result Bool × Db :=
  reconcileAdjustCapturedAmount (sampleCall 3 sampleTenant) sampleTenant "req-1" "gpt-5.4"
    80 0 0 0 none none (runOps sampleRun sampleDb)

def sampleRelease : BillingReleaseRequest :=
  { tenantId := sampleTenant, requestId := "req-1", isStream := false
    releaseReason := none, upstreamStatusCode := none, upstreamErrorCode := none
    failoverAction := none, failoverReasonClass := none, recoveryAction := none
    recoveryOutcome := none, crossAccountFailoverAttempted := none }

/-- The tables after the adjustment and a release. -/
def sampleClosed : Db :=
  (BillingOp.release (sampleCall 4 sampleTenant) sampleRelease).run sampleAdjust.2

theorem sampleAdjust_facts :
    sampleRow.status = .captured ∧ sampleAdjust.1 = .ok true ∧
      expectedCharge (sampleCall 3 sampleTenant) "gpt-5.4"
        (BillableUsage.ofTokens 80 0 0 0) none sampleRow = .ok 80 ∧
      sampleClosed.Closed sampleRow.id ∧
      sampleClosed.authorizationTotal sampleRow.id = -100 := by
  decide +kernel

/-- The ledger rows of the hold add up to `-100`, not to the expected `-80`. -/
theorem reconcileAdjust_close_total_ne :
    sampleRow.status = .captured ∧ sampleAdjust.1 = .ok true ∧
      expectedCharge (sampleCall 3 sampleTenant) "gpt-5.4"
        (BillableUsage.ofTokens 80 0 0 0) none sampleRow = .ok 80 ∧
      sampleClosed.Closed sampleRow.id ∧
      sampleClosed.authorizationTotal sampleRow.id ≠ -80 := by
  obtain ⟨hst, hadj, he, hclosed, htot⟩ := sampleAdjust_facts
  exact ⟨hst, hadj, he, hclosed, by rw [htot]; decide⟩

theorem reconcileAdjust_close_total_sample :
    sampleClosed.authorizationTotal sampleRow.id = -(80 : I64).val ↔
      sampleRow.status = .released ∨ 80 = sampleRow.capturedMicrocredits ∨
        sampleRow.reservedMicrocredits ≤ sampleRow.capturedMicrocredits ∧
          sampleRow.reservedMicrocredits ≤ 80 := by
  obtain ⟨hst, hadj, he, hclosed, -⟩ := sampleAdjust_facts
  have hfind : (runOps sampleRun sampleDb).findAuthorization sampleTenant "req-1" =
      some sampleRow := (Option.some_get _).symm
  have hadj' : reconcileAdjustCapturedAmount (sampleCall 3 sampleTenant) sampleTenant
      "req-1" "gpt-5.4" 80 0 0 0 none none (runOps sampleRun sampleDb) =
      (.ok true, sampleAdjust.2) := Prod.ext hadj rfl
  exact reconcileAdjust_close_total sampleDb_fresh sampleRun hfind (.inl hst) hadj' he
    rfl hclosed

/-! ## The request log -/

/-- The query of `fetchAuthorization` leaves out the metadata, so that no stored
row can be decoded. -/
theorem fetchAuthorization_of_some {t : Uuid} (h : db.findAuthorization t rid = some row) :
    fetchAuthorization t rid db = .error "no column found for name: meta_json" := by
  unfold fetchAuthorization
  rw [h]
  rfl

/-- A reconciliation from the request log of a stored authorization fails at
its first read and changes nothing. -/
theorem billingReconcileRequestFact_of_some {req : BillingReconcileFactRequest}
    (hid : Text.trim req.requestId ≠ "")
    (h : db.findAuthorization req.tenantId (Text.trim req.requestId) = some row) :
    billingReconcileRequestFact call req db =
      (.error "no column found for name: meta_json", db) := by
  unfold billingReconcileRequestFact reconcileFactWith
  simp only [hid, if_false, fetchAuthorization_of_some h]

/-- What a reconciliation from the request log should achieve: it succeeds and
leaves the authorization released, with the charge of the reported usage as its
captured amount. -/
def FactReconciled (call : BillingCall) (req : BillingReconcileFactRequest)
    (row : AuthorizationRow) (charge : I64) (db : Db) : Prop :=
  ∃ stats, (billingReconcileRequestFact call req db).1 = .ok stats ∧
    ∃ a ∈ (billingReconcileRequestFact call req db).2.authorizations,
      a.id = row.id ∧ a.status = .released ∧ a.capturedMicrocredits = charge

/-- Whatever is stored for the request and whatever it reports, the
reconciliation from the request log achieves nothing: the record that the
billing transactions read is not the one that `fetchAuthorization` reads, which
is none. -/
theorem not_factReconciled {call : BillingCall} {req : BillingReconcileFactRequest}
    {db : Db} {row : AuthorizationRow} (hid : Text.trim req.requestId ≠ "")
    (h : db.findAuthorization req.tenantId (Text.trim req.requestId) = some row)
    (charge : I64) :
    ¬FactReconciled call req row charge db ∧
      (billingReconcileRequestFact call req db).2 = db ∧
      fetchAuthorizationForUpdate req.tenantId (Text.trim req.requestId) ⟨db, false⟩ =
        .ok (some row.record, ⟨db, false⟩) ∧
      fetchAuthorization req.tenantId (Text.trim req.requestId) db ≠
        .ok (some row.record) := by
  have hfact : billingReconcileRequestFact call req db =
      (.error "no column found for name: meta_json", db) :=
    billingReconcileRequestFact_of_some hid h
  refine ⟨?_, by rw [hfact], ?_, ?_⟩
  · rintro ⟨stats, hok, -⟩
    rw [hfact] at hok
    cases hok
  · rw [fetchAuthorizationForUpdate_eq]
    exact TxM.query_eq_ok.2 ⟨rfl, by rw [h]; rfl⟩
  · rw [fetchAuthorization_of_some h]
    exact nofun

def sampleFact : BillingReconcileFactRequest :=
  { tenantId := sampleTenant, apiKeyId := none, requestId := "req-1"
    model := some "gpt-5.4", serviceTier := none, inputTokens := some 80
    cachedInputTokens := none, outputTokens := some 0, reasoningTokens := none }

/-- The request log reports 80 tokens for the hold of `sampleRun`. The price is
configured and the balance covers it, and the reconciliation still fails. -/
theorem not_factReconciled_sample :
    expectedCharge (sampleCall 3 sampleTenant) "gpt-5.4"
        (BillableUsage.ofTokens 80 0 0 0) none sampleRow = .ok 80 ∧
      sampleAdjust.1 = .ok true ∧
      ¬FactReconciled (sampleCall 3 sampleTenant) sampleFact sampleRow 80
        (runOps sampleRun sampleDb) := by
  obtain ⟨-, hadj, he, -, -⟩ := sampleAdjust_facts
  refine ⟨he, hadj, ?_⟩
  rintro ⟨stats, hok, -⟩
  have hfind : (runOps sampleRun sampleDb).findAuthorization sampleTenant
      (Text.trim sampleFact.requestId) = some sampleRow := (Option.some_get _).symm
  rw [billingReconcileRequestFact_of_some (by decide) hfind] at hok
  cases hok

theorem not_factReconciled_sampleRow :
    Text.trim sampleFact.requestId ≠ "" ∧
      ¬FactReconciled (sampleCall 3 sampleTenant) sampleFact sampleRow 80
        (runOps sampleRun sampleDb) :=
  ⟨by decide, (not_factReconciled (by decide) (Option.some_get _).symm 80).1⟩

end CodexPool
