import CodexPool.Tenant.Acceptance

/-!
# Settlement of a request by the data plane

When a request has succeeded upstream, the data plane captures its usage at the
control plane and then releases the hold. It repeats a capture that failed for
reasons that may pass. A capture that is refused in the end is followed by a
release alone, so that the request is not charged at all.
-/

namespace CodexPool

open Saturating HoldLedger

/-! ## Errors between the services -/

structure ErrorReply where
  status : Nat
  code : String
  message : String
deriving DecidableEq

def internalError (err : String) : ErrorReply :=
  let lowered := Text.toAsciiLowercase err
  if Text.contains lowered "account not found" then ⟨404, "not_found", "资源不存在"⟩
  else if Text.contains lowered "refresh_token_reused" then
    ⟨400, "refresh_token_reused", "refresh token 已复用，需重新获取最新 refresh token"⟩
  else if Text.contains lowered "invalid refresh token" ||
      Text.contains lowered "invalid_refresh_token" then
    ⟨400, "invalid_refresh_token", "refresh token 无效或已过期"⟩
  else if Text.contains lowered "missing_client_id" ||
      Text.contains lowered "oauth token endpoint is not configured" then
    ⟨503, "oauth_provider_not_configured",
      "OAuth 刷新服务配置不完整（缺少 client_id 或 token endpoint）"⟩
  else ⟨500, "internal_error", "服务器内部错误"⟩

def mapTenantError (err : String) : ErrorReply :=
  let lowered := Text.toAsciiLowercase err
  if Text.contains lowered "invalid" || Text.contains lowered "not found" ||
      Text.contains lowered "already" || Text.contains lowered "must" ||
      Text.contains lowered "insufficient" then
    ⟨400, "invalid_request", "invalid tenant request"⟩
  else internalError err

def mapInternalBillingError (err : String) : ErrorReply :=
  let lowered := Text.toAsciiLowercase err
  if Text.contains lowered "insufficient credits" then
    ⟨402, "insufficient_credits", "insufficient credits"⟩
  else if Text.contains lowered "request_id must not be empty" then
    ⟨400, "billing_request_id_missing", "billing request id is required"⟩
  else if Text.contains lowered "model pricing is not configured" ||
      Text.contains lowered "billing_model_missing" ||
      Text.contains lowered "model must not be empty" then
    ⟨400, "billing_model_missing", "billing model missing"⟩
  else if Text.contains lowered "reserved_microcredits must be positive" then
    ⟨400, "billing_reserve_invalid", "reserved microcredits must be positive"⟩
  else if Text.contains lowered "api key group is unavailable" ||
      Text.contains lowered "api key group is deleted" then
    ⟨403, "api_key_group_invalid", "api key group is unavailable"⟩
  else if Text.contains lowered "model is not allowed for api key group" then
    ⟨403, "model_not_allowed", "requested model is not allowed"⟩
  else if Text.contains lowered "billing authorization is in invalid status" then
    ⟨400, "billing_authorization_invalid_status",
      "billing authorization is in invalid status"⟩
  else if Text.contains lowered "authorization not found" then
    ⟨404, "billing_authorization_not_found", "billing authorization not found"⟩
  else mapTenantError err

/-- How the data plane reports an error reply of the billing endpoints. -/
def mapBillingReply (reply : ErrorReply) : ErrorReply :=
  match reply.status with
  | 400 => ⟨400, reply.code, reply.message⟩
  | 402 => ⟨402, "insufficient_credits", "insufficient credits"⟩
  | 404 => ⟨502, "billing_authorization_not_found", "billing authorization not found"⟩
  | _ => ⟨502, "billing_service_error", "billing service error"⟩

def isRetryableBillingError (reply : ErrorReply) : Bool :=
  reply.status = 502 || reply.status = 503

/-! ## Calls of the control plane -/

/-- A call that reaches the control plane. A call that is at fault fails in the
database before its transaction is committed. -/
structure ControlPlaneCall where
  call : BillingCall
  fault : Bool

def postInternalBilling {α : Type} (c : ControlPlaneCall)
    (op : BillingCall → Db → Result α × Db) (db : Db) : Except ErrorReply α × Db :=
  if c.fault then
    (.error (mapBillingReply (mapInternalBillingError "database error")), db)
  else
    match op c.call db with
    | (.ok r, db) => (.ok r, db)
    | (.error e, db) => (.error (mapBillingReply (mapInternalBillingError e)), db)

def triggerInternalBillingCapture (c : ControlPlaneCall) (payload : BillingCaptureRequest) :
    Db → Except ErrorReply BillingCaptureResponse × Db :=
  postInternalBilling c fun call => billingCapture call payload

def triggerInternalBillingRelease (c : ControlPlaneCall) (payload : BillingReleaseRequest) :
    Db → Except ErrorReply BillingReleaseResponse × Db :=
  postInternalBilling c fun call => billingRelease call payload

/-- The attempt number `attempt` and, when it fails for reasons that may pass,
up to `retries` attempts after it. -/
def captureWithRetry (calls : Nat → ControlPlaneCall) (payload : BillingCaptureRequest) :
    (retries attempt : Nat) → Db → Except ErrorReply BillingCaptureResponse × Db
  | 0, attempt, db => triggerInternalBillingCapture (calls attempt) payload db
  | retries + 1, attempt, db =>
    match triggerInternalBillingCapture (calls attempt) payload db with
    | (.ok response, db) => (.ok response, db)
    | (.error reply, db) =>
      if isRetryableBillingError reply then
        captureWithRetry calls payload retries (attempt + 1) db
      else (.error reply, db)

/-- `billing_capture_retry_max` counts the first attempt. -/
def triggerInternalBillingCaptureWithRetry (calls : Nat → ControlPlaneCall)
    (retryMax : Nat) (payload : BillingCaptureRequest) :
    Db → Except ErrorReply BillingCaptureResponse × Db :=
  captureWithRetry calls payload (retryMax - 1) 0

/-! ## Settlement -/

structure UsageTokens where
  inputTokens : I64
  cachedInputTokens : I64
  outputTokens : I64
  reasoningTokens : I64
deriving DecidableEq

structure BillingSession where
  tenantId : Uuid
  apiKeyId : Uuid
  requestId : String
  model : String
  requestedServiceTier : Option String
  effectiveServiceTier : Option String
  sessionKey : String
  requestKind : String
  isStream : Bool
  estimatedInputTokens : I64
  authorizationId : Uuid
deriving DecidableEq

structure BillingSettleResult where
  authorizationId : Uuid
  captureStatus : AuthorizationStatus
  inputTokens : I64
  cachedInputTokens : I64
  outputTokens : I64
  reasoningTokens : I64

def BillingSession.capturePayload (session : BillingSession) (usage : UsageTokens)
    (effectiveServiceTier : Option String) : BillingCaptureRequest :=
  { tenantId := session.tenantId
    apiKeyId := some session.apiKeyId
    requestId := session.requestId
    model := session.model
    serviceTier := effectiveServiceTier.or session.requestedServiceTier
    sessionKey := some session.sessionKey
    requestKind := some session.requestKind
    inputTokens := usage.inputTokens
    cachedInputTokens := usage.cachedInputTokens
    outputTokens := usage.outputTokens
    reasoningTokens := usage.reasoningTokens
    isStream := session.isStream }

def BillingSession.releasePayload (session : BillingSession) : BillingReleaseRequest :=
  { tenantId := session.tenantId
    requestId := session.requestId
    isStream := session.isStream
    releaseReason := none
    upstreamStatusCode := none
    upstreamErrorCode := none
    failoverAction := none
    failoverReasonClass := none
    recoveryAction := none
    recoveryOutcome := none
    crossAccountFailoverAttempted := none }

structure SettleCalls where
  captures : Nat → ControlPlaneCall
  retryMax : Nat
  release : ControlPlaneCall

def settleAuthorizedBilling (calls : SettleCalls) (session : BillingSession)
    (usage : UsageTokens) (effectiveServiceTier : Option String) (db : Db) :
    Except ErrorReply BillingSettleResult × Db :=
  match triggerInternalBillingCaptureWithRetry calls.captures calls.retryMax
      (session.capturePayload usage effectiveServiceTier) db with
  | (.error reply, db) =>
    (.error reply, (triggerInternalBillingRelease calls.release session.releasePayload db).2)
  | (.ok capture, db) =>
    match triggerInternalBillingRelease calls.release session.releasePayload db with
    | (.error reply, db) => (.error reply, db)
    | (.ok _, db) =>
      (.ok
        { authorizationId := session.authorizationId
          captureStatus := capture.status
          inputTokens := usage.inputTokens
          cachedInputTokens := usage.cachedInputTokens
          outputTokens := usage.outputTokens
          reasoningTokens := usage.reasoningTokens }, db)

theorem settleAuthorizedBilling_snd (calls : SettleCalls) (session : BillingSession)
    (usage : UsageTokens) (tier : Option String) (db : Db) :
    (settleAuthorizedBilling calls session usage tier db).2 =
      (triggerInternalBillingRelease calls.release session.releasePayload
        (triggerInternalBillingCaptureWithRetry calls.captures calls.retryMax
          (session.capturePayload usage tier) db).2).2 := by
  unfold settleAuthorizedBilling
  rcases triggerInternalBillingCaptureWithRetry calls.captures calls.retryMax
    (session.capturePayload usage tier) db with ⟨⟨reply⟩ | ⟨capture⟩, db₁⟩
  · rfl
  · simp only
    rcases triggerInternalBillingRelease calls.release session.releasePayload db₁ with
      ⟨⟨reply⟩ | ⟨release⟩, db₂⟩
    · rfl
    · rfl

variable {payload : BillingCaptureRequest} {db db' : Db}

theorem triggerInternalBillingCapture_eq {c : ControlPlaneCall}
    {r : Except ErrorReply BillingCaptureResponse}
    (h : triggerInternalBillingCapture c payload db = (r, db')) :
    (∃ reply, r = .error reply ∧ db' = db) ∨
      ∃ response, r = .ok response ∧
        billingCapture c.call payload db = (.ok response, db') := by
  unfold triggerInternalBillingCapture postInternalBilling at h
  split at h
  · obtain ⟨rfl, rfl⟩ := Prod.mk.inj h
    exact .inl ⟨_, rfl, rfl⟩
  · rcases hc : billingCapture c.call payload db with ⟨⟨e⟩ | ⟨response⟩, db₁⟩
    · simp only [hc] at h
      obtain ⟨rfl, rfl⟩ := Prod.mk.inj h
      exact .inl ⟨_, rfl, billingCapture_error hc⟩
    · simp only [hc] at h
      obtain ⟨rfl, rfl⟩ := Prod.mk.inj h
      exact .inr ⟨response, rfl, rfl⟩

/-- The captures of a settlement leave the tables as they were until one of them
is accepted. -/
theorem captureWithRetry_eq {calls : Nat → ControlPlaneCall} {retries attempt : Nat}
    {r : Except ErrorReply BillingCaptureResponse}
    (h : captureWithRetry calls payload retries attempt db = (r, db')) :
    (∃ reply, r = .error reply ∧ db' = db) ∨
      ∃ n response, r = .ok response ∧
        billingCapture (calls n).call payload db = (.ok response, db') := by
  induction retries generalizing attempt with
  | zero =>
      rcases triggerInternalBillingCapture_eq h with hr | ⟨response, hr, hc⟩
      · exact .inl hr
      · exact .inr ⟨attempt, response, hr, hc⟩
  | succ retries ih =>
      rw [captureWithRetry] at h
      rcases ht : triggerInternalBillingCapture (calls attempt) payload db with
        ⟨⟨reply⟩ | ⟨response⟩, db₁⟩
      · simp only [ht] at h
        rcases triggerInternalBillingCapture_eq ht with ⟨_, -, rfl⟩ | ⟨_, hr, -⟩
        · split at h
          · exact ih h
          · obtain ⟨rfl, rfl⟩ := Prod.mk.inj h
            exact .inl ⟨reply, rfl, rfl⟩
        · cases hr
      · simp only [ht] at h
        obtain ⟨rfl, rfl⟩ := Prod.mk.inj h
        rcases triggerInternalBillingCapture_eq ht with ⟨_, hr, -⟩ | ⟨_, hr, hc⟩
        · cases hr
        · exact .inr ⟨attempt, response, rfl, Except.ok.inj hr ▸ hc⟩

/-! ## The net debit of a request -/

/-- What the ledger took from the tenant for an authorization. -/
def Db.netDebitOf (db : Db) (id : Uuid) : Int := -db.authorizationTotal id

variable {row : AuthorizationRow}

theorem Db.Valid.netDebitOf (hv : db.Valid) {t : Uuid} {rid : String}
    (h : db.findAuthorization t rid = some row) :
    db.netDebitOf row.id = row.netDebit := by
  obtain ⟨hrow, -, -⟩ := Db.findAuthorization_eq_some h
  have htot := hv.sound.totalOf_eq row.hold (List.mem_map_of_mem hrow)
  rw [Db.net_hold] at htot
  rw [Db.netDebitOf, Db.authorizationTotal_eq_totalOf]
  exact (congrArg Neg.neg htot).trans (neg_neg _)

/-- The release that ends a settlement closes the hold, unless the control plane
fails at it. -/
theorem triggerInternalBillingRelease_spec {c : ControlPlaneCall}
    {payload : BillingReleaseRequest} (hv : db.Valid) (hid : Text.trim payload.requestId ≠ "")
    (hfind : db.findAuthorization payload.tenantId (Text.trim payload.requestId) =
      some row) (hst : row.status ≠ .released) :
    ((triggerInternalBillingRelease c payload db).2).netDebitOf row.id =
      if c.fault then row.netDebit else row.capturedMicrocredits.val := by
  unfold triggerInternalBillingRelease postInternalBilling
  cases hf : c.fault with
  | true => exact hv.netDebitOf hfind
  | false =>
      obtain ⟨r, db', hr⟩ : ∃ r db', billingRelease c.call payload db = (.ok r, db') :=
        billingRelease_accepted hv hid hfind
      obtain ⟨hrow, -, -⟩ := Db.findAuthorization_eq_some hfind
      have hv' : db'.Valid := by
        rcases billingRelease_simulates hv.sound.toWellFormed hr with hsim | ⟨id, hsim⟩
        · exact hsim.valid hv
        · exact hsim.valid hv
      obtain ⟨row', hfind', ⟨hst', -⟩ | ⟨-, -, rfl⟩⟩ := billingRelease_eq_ok hr
      all_goals obtain rfl := Option.some.inj (hfind.symm.trans hfind')
      · exact absurd hst' hst
      · have hrefund : (db.refund (payload.posting c.call.now row.record)).findAuthorization
            payload.tenantId (Text.trim payload.requestId) = some row := by
          unfold Db.refund
          split <;> exact hfind
        have hnet := hv'.netDebitOf (Db.findAuthorization_updateAuthorization
          (g := AuthorizationRow.release c.call.now) hrefund (fun _ => rfl) fun _ => rfl)
        simp only [hr]
        exact hnet

/-- What an accepted capture of an open hold leaves behind. -/
theorem billingCapture_spec {call : BillingCall} {response : BillingCaptureResponse} (hv : db.Valid)
    (hfind : db.findAuthorization payload.tenantId (Text.trim payload.requestId) =
      some row) (hst : row.status = .authorized)
    (h : billingCapture call payload db = (.ok response, db')) :
    db'.Valid ∧ captureCharge call payload row db = .ok response.chargedMicrocredits ∧
      ∃ row', db'.findAuthorization payload.tenantId (Text.trim payload.requestId) =
          some row' ∧
        row'.id = row.id ∧ row'.status = .captured ∧
        row'.reservedMicrocredits = row.reservedMicrocredits ∧
        row'.capturedMicrocredits = response.chargedMicrocredits := by
  have hv' : db'.Valid := by
    rcases billingCapture_simulates hv.sound.toWellFormed h with hsim | ⟨id, c, hsim⟩
    · exact hsim.valid hv
    · exact hsim.valid hv
  obtain ⟨row', hfind', hcase⟩ := billingCapture_eq_ok h
  obtain rfl := Option.some.inj (hfind.symm.trans hfind')
  rcases hcase with ⟨hst', -⟩ | ⟨-, c, p, fields, sessions, hc, hr, -, -, -, -, rfl⟩
  · rw [hst] at hst'
    cases hst'
  · have hpost : (db.post p).findAuthorization payload.tenantId
        (Text.trim payload.requestId) = some row := hfind
    refine ⟨hv', hr ▸ hc, _, Db.findAuthorization_updateAuthorization
      (g := AuthorizationRow.capture (payload.apiKeyId.or row.apiKeyId)
        (row.model.getD (Text.trim payload.model)) c fields call.now)
      hpost (fun _ => rfl) (fun _ => rfl), rfl, rfl, rfl, hr.symm⟩

theorem mapBillingReply_fault :
    mapBillingReply (mapInternalBillingError "database error") =
      ⟨502, "billing_service_error", "billing service error"⟩ := by decide +kernel

/-- A capture is accepted at an attempt that finds a price and enough balance,
when the control plane failed at the attempts before it. -/
theorem captureWithRetry_accepted {calls : Nat → ControlPlaneCall} {n : Nat}
    (hok : ∃ r db', billingCapture (calls n).call payload db = (.ok r, db'))
    (hn : (calls n).fault = false) {retries attempt : Nat} (hle : attempt ≤ n)
    (hlt : n ≤ attempt + retries) (hfault : ∀ m, attempt ≤ m → m < n → (calls m).fault = true) :
    ∃ r db', captureWithRetry calls payload retries attempt db = (.ok r, db') := by
  obtain ⟨r, db', hr⟩ := hok
  have hlast : triggerInternalBillingCapture (calls n) payload db = (.ok r, db') := by
    simp only [triggerInternalBillingCapture, postInternalBilling, hn, hr]
    rfl
  induction retries generalizing attempt with
  | zero =>
      obtain rfl : attempt = n := by omega
      exact ⟨r, db', hlast⟩
  | succ retries ih =>
      rw [captureWithRetry]
      rcases Nat.lt_or_eq_of_le hle with hlt' | rfl
      · have hf : triggerInternalBillingCapture (calls attempt) payload db =
            (.error ⟨502, "billing_service_error", "billing service error"⟩, db) := by
          simp only [triggerInternalBillingCapture, postInternalBilling,
            hfault attempt le_rfl hlt', if_true, mapBillingReply_fault]
        rw [hf]
        exact ih hlt' (by omega) fun m hm => hfault m (by omega)
      · rw [hlast]
        exact ⟨r, db', rfl⟩

section Settlement

variable {db : Db} (hv : db.Valid) {calls : SettleCalls} {session : BillingSession}
  {usage : UsageTokens} {tier : Option String} {row : AuthorizationRow}
  (hid : Text.trim session.requestId ≠ "")
  (hfind : db.findAuthorization session.tenantId (Text.trim session.requestId) = some row)
  (hst : row.status = .authorized)

include hv hid hfind hst

/-- The net debit after an accepted capture. -/
theorem settleAuthorizedBilling_captured {db' : Db} {r : BillingCaptureResponse}
    (h : triggerInternalBillingCaptureWithRetry calls.captures calls.retryMax
      (session.capturePayload usage tier) db = (.ok r, db')) :
    (∃ n, captureCharge (calls.captures n).call (session.capturePayload usage tier) row
      db = .ok r.chargedMicrocredits) ∧
    (settleAuthorizedBilling calls session usage tier db).2.netDebitOf row.id =
      if calls.release.fault then
        max row.reservedMicrocredits.val r.chargedMicrocredits.val
      else r.chargedMicrocredits.val := by
  rcases captureWithRetry_eq h with ⟨_, he, -⟩ | ⟨n, r', he, hc⟩
  · cases he
  obtain rfl := Except.ok.inj he
  obtain ⟨hv', hcharge, row', hfind', hid', hst', hres, hcap⟩ :=
    billingCapture_spec hv hfind hst hc
  have hopen : row'.status ≠ .released := by
    rw [hst']
    decide
  have hrel := triggerInternalBillingRelease_spec (c := calls.release) hv'
    (show Text.trim session.releasePayload.requestId ≠ "" from hid) hfind' hopen
  rw [hid', AuthorizationRow.netDebit, hst', hres, hcap] at hrel
  refine ⟨⟨n, hcharge⟩, ?_⟩
  rw [settleAuthorizedBilling_snd, h]
  exact hrel

/-- The net debit when no capture was accepted. -/
theorem settleAuthorizedBilling_refused {db' : Db} {reply : ErrorReply}
    (h : triggerInternalBillingCaptureWithRetry calls.captures calls.retryMax
      (session.capturePayload usage tier) db = (.error reply, db')) :
    (settleAuthorizedBilling calls session usage tier db).2.netDebitOf row.id =
      if calls.release.fault then row.reservedMicrocredits.val else 0 := by
  rcases captureWithRetry_eq h with ⟨_, -, rfl⟩ | ⟨_, _, he, -⟩
  · have hopen : row.status ≠ .released := by
      rw [hst]
      decide
    have hzero : row.capturedMicrocredits.val = 0 :=
      hv.sound.held_captured row.hold
        (List.mem_map_of_mem (Db.findAuthorization_eq_some hfind).1)
        (by rw [AuthorizationRow.hold, hst]; rfl)
    have hrel := triggerInternalBillingRelease_spec (c := calls.release) hv
      (show Text.trim session.releasePayload.requestId ≠ "" from hid) hfind hopen
    rw [AuthorizationRow.netDebit, hst, hzero] at hrel
    rw [settleAuthorizedBilling_snd, h]
    exact hrel
  · cases he

/-- An attempt without a fault is accepted when the price resolves and the
balance covers the charge. -/
theorem settleAuthorizedBilling_accepted {n : Nat} {c : I64}
    (hn : n ≤ calls.retryMax - 1) (hm : ∀ m < n, (calls.captures m).fault = true)
    (hf : (calls.captures n).fault = false) (hmodel : Text.trim session.model ≠ "")
    (hc : captureCharge (calls.captures n).call (session.capturePayload usage tier) row
      db = .ok c)
    (hle : c.val - row.reservedMicrocredits.val ≤ (db.balance session.tenantId).val) :
    ∃ r, (triggerInternalBillingCaptureWithRetry calls.captures calls.retryMax
      (session.capturePayload usage tier) db).1 = .ok r := by
  generalize hp : session.capturePayload usage tier = payload at hc ⊢
  have hrid : payload.requestId = session.requestId := hp ▸ rfl
  have htid : payload.tenantId = session.tenantId := hp ▸ rfl
  have hmod : payload.model = session.model := hp ▸ rfl
  rw [← hrid] at hid hfind
  rw [← htid] at hfind hle
  rw [← hmod] at hmodel
  have hok := (billingCapture_accepted_iff hv hid hmodel hfind hst).2 ⟨c, hc, hle⟩
  obtain ⟨r, db', hr⟩ := captureWithRetry_accepted hok hf (Nat.zero_le n)
    (by omega : n ≤ 0 + (calls.retryMax - 1)) fun m _ => hm m
  exact ⟨r, congrArg Prod.fst hr⟩

end Settlement

/-- What the settlement of an open hold takes from the tenant. A capture that
the control plane accepts takes at least the smaller of the reservation and the
charge, and exactly the charge once the hold is released. When it accepts no
capture, the hold is given back in full. It accepts one when the price resolves
and the balance covers what the charge exceeds the reservation by. -/
theorem settleAuthorizedBilling_netDebit {db₀ : Db} (h₀ : db₀.Fresh)
    (ops : List BillingOp) (calls : SettleCalls) (session : BillingSession)
    (usage : UsageTokens) (tier : Option String) {row : AuthorizationRow}
    (hid : Text.trim session.requestId ≠ "")
    (hfind : (runOps ops db₀).findAuthorization session.tenantId
      (Text.trim session.requestId) = some row)
    (hst : row.status = .authorized) :
    let db := runOps ops db₀
    let payload := session.capturePayload usage tier
    let captured := triggerInternalBillingCaptureWithRetry calls.captures calls.retryMax
      payload db
    let net := (settleAuthorizedBilling calls session usage tier db).2.netDebitOf row.id
    (∀ r, captured.1 = .ok r →
      (∃ n, captureCharge (calls.captures n).call payload row db =
        .ok r.chargedMicrocredits) ∧
      min row.reservedMicrocredits.val r.chargedMicrocredits.val ≤ net ∧
      (calls.release.fault = false → net = r.chargedMicrocredits.val)) ∧
    (∀ reply, captured.1 = .error reply →
      net = if calls.release.fault then row.reservedMicrocredits.val else 0) ∧
    (∀ n c, n ≤ calls.retryMax - 1 → (∀ m < n, (calls.captures m).fault = true) →
      (calls.captures n).fault = false → Text.trim session.model ≠ "" →
      captureCharge (calls.captures n).call payload row db = .ok c →
      c.val - row.reservedMicrocredits.val ≤ (db.balance session.tenantId).val →
      ∃ r, captured.1 = .ok r) := by
  intro db payload captured net
  have hv : db.Valid := runOps_valid h₀ ops
  have hcap : captured = (captured.1, captured.2) := rfl
  refine ⟨fun r hr => ?_, fun reply hreply => ?_, ?_⟩
  · rw [hr] at hcap
    obtain ⟨hcharge, hnet⟩ := settleAuthorizedBilling_captured hv hid hfind hst hcap
    change net = _ at hnet
    refine ⟨hcharge, ?_, fun hf => by simpa [hf] using hnet⟩
    rw [hnet]
    split
    · exact min_le_max
    · exact min_le_right _ _
  · rw [hreply] at hcap
    exact settleAuthorizedBilling_refused hv hid hfind hst hcap
  · intro n c hn hm hf hmodel hc hle
    exact settleAuthorizedBilling_accepted hv hid hfind hst hn hm hf hmodel hc hle

/-! A tenant that was granted 100 has reserved all of it. -/

def sampleSession : BillingSession :=
  { tenantId := sampleTenant, apiKeyId := sampleKey, requestId := "req-1"
    model := "gpt-5.4", requestedServiceTier := none, effectiveServiceTier := none
    sessionKey := "", requestKind := "responses", isStream := false
    estimatedInputTokens := 0, authorizationId := sampleHold }

def sampleUsage (inputTokens : I64) : UsageTokens := ⟨inputTokens, 0, 0, 0⟩

def sampleSettleCalls : SettleCalls :=
  { captures := fun _ => ⟨sampleCall 2 sampleTenant, false⟩
    retryMax := 3
    release := ⟨sampleCall 3 sampleTenant, false⟩ }

def sampleReserved : List BillingOp :=
  [.recharge (sampleCall 0 sampleTenant) sampleTenant ⟨100, none⟩,
    .authorize (sampleCall 1 sampleHold) (sampleAuthorize 100)]

/-- What is stored for the request of `sampleSession`. -/
def sampleReservedRow : AuthorizationRow :=
  ((runOps sampleReserved sampleDb).findAuthorization sampleTenant "req-1").get
    (by decide +kernel)

theorem sampleReservedRow_facts :
    Text.trim sampleSession.requestId ≠ "" ∧
      (runOps sampleReserved sampleDb).findAuthorization sampleSession.tenantId
        (Text.trim sampleSession.requestId) = some sampleReservedRow ∧
      sampleReservedRow.status = .authorized := by
  refine ⟨by decide +kernel, ?_, by decide +kernel⟩
  have htrim : Text.trim sampleSession.requestId = "req-1" := by decide +kernel
  rw [htrim]
  exact (Option.some_get _).symm

/-- Usage that is charged 60 is charged in full. -/
theorem settleAuthorizedBilling_netDebit_sample :
    (settleAuthorizedBilling sampleSettleCalls sampleSession (sampleUsage 60) none
      (runOps sampleReserved sampleDb)).2.netDebitOf sampleReservedRow.id = 60 := by
  obtain ⟨hid, hfind, hst⟩ := sampleReservedRow_facts
  have hnet := (settleAuthorizedBilling_netDebit sampleDb_fresh sampleReserved
    sampleSettleCalls sampleSession (sampleUsage 60) none hid hfind hst).1
  obtain ⟨r, hr, hc⟩ : ∃ r, (triggerInternalBillingCaptureWithRetry
      sampleSettleCalls.captures sampleSettleCalls.retryMax
      (sampleSession.capturePayload (sampleUsage 60) none)
      (runOps sampleReserved sampleDb)).1 = .ok r ∧ r.chargedMicrocredits.val = 60 :=
    ⟨⟨sampleHold, sampleTenant, "req-1", .captured, 100, 60, 60, 0⟩,
      by decide +kernel, rfl⟩
  rw [(hnet r hr).2.2 rfl, hc]

/-- Usage that is charged 160 does not fit the balance, and nothing is taken for
it. -/
theorem settleAuthorizedBilling_netDebit_lt :
    ∃ c, captureCharge (sampleSettleCalls.captures 0).call
        (sampleSession.capturePayload (sampleUsage 160) none) sampleReservedRow
        (runOps sampleReserved sampleDb) = .ok c ∧
      (settleAuthorizedBilling sampleSettleCalls sampleSession (sampleUsage 160) none
        (runOps sampleReserved sampleDb)).2.netDebitOf sampleReservedRow.id <
        min sampleReservedRow.reservedMicrocredits.val c.val :=
  ⟨160, by decide +kernel, by decide +kernel⟩

end CodexPool
