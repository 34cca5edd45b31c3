import CodexPool.ImportJobs.VaultAdmission

/-!
# Retries of an import

An import is attempted up to three times. Every error of the data store leaves the whole function
from within the attempt, though, so that a transient failure is not retried.
-/

namespace CodexPool

/-- The calls to the data store that an import makes, on a store of any kind. -/
structure ImportDataStore (S : Type) where
  queueOauthRefreshToken : ImportOAuthRefreshTokenRequest → ExceptT String (StateM S) Bool
  oauthInventoryRecords : ExceptT String (StateM S) (List OAuthInventoryRecord)
  deleteOauthInventoryRecord : Uuid → ExceptT String (StateM S) Unit
  upsertOneTimeSessionAccount :
    UpsertOneTimeSessionAccountRequest → ExceptT String (StateM S) (Bool × UpstreamAccount)
  refreshOauthAccount : Uuid → ExceptT String (StateM S) Unit
  listUpstreamAccounts : ExceptT String (StateM S) (List UpstreamAccount)

def isRetryableImportError (message : String) : Bool :=
  let lowered := Text.toAsciiLowercase message
  if Text.contains lowered "invalid refresh token" then false
  else
    ["timeout", "timed out", "connection reset", "connection refused", "connection closed",
      "transport error", "temporarily unavailable", "503", "502", "500", "429", "rate limit",
      "too many requests"].any (Text.contains lowered)

def accountSuccess (created : Bool) (account : UpstreamAccount) : ImportTaskSuccess where
  created := created
  accountId := some account.id
  chatgptAccountId := account.chatgptAccountId
  admissionStatus := none
  admissionSource := none
  admissionReason := none
  failureStage := none
  attemptCount := 0
  transientRetryCount := 0
  nextRetryAt := none
  retryable := false
  terminalReason := none

section Import

variable {S : Type} (store : ImportDataStore S) (request : ImportTaskRequest)

/-- One attempt. An error leaves the function; else there is the result that the loop looks at. -/
def attemptImport : ExceptT String (StateM S) (Except String ImportTaskSuccess) :=
  match request with
  | .oauthRefresh req => do
    let created ← store.queueOauthRefreshToken req
    let records ← store.oauthInventoryRecords
    let admission := OAuthInventoryRecord.latest (records.filter (·.isFor req))
    match admission.filter shouldRejectTerminalInventoryAdmission with
    | some record => do
      store.deleteOauthInventoryRecord record.id
      throw (rejectedCode record)
    | none => pure (.ok (importedSuccess req created admission))
  | .oneTimeAccessToken req => do
    let upserted ← store.upsertOneTimeSessionAccount req
    pure (.ok (accountSuccess upserted.1 upserted.2))
  | .manualRefreshAccount accountId => do
    store.refreshOauthAccount accountId
    let accounts ← store.listUpstreamAccounts
    match accounts.find? (·.id = accountId) with
    | none => throw "account not found"
    | some account => pure (.ok (accountSuccess false account))

/-- What the loop makes of an attempt, with `again` for the attempts that are left: the result, and
the number of attempts. -/
def settleAttempt (again : Option (S → (Except String ImportTaskSuccess × Nat) × S)) :
    Except String (Except String ImportTaskSuccess) × S →
      (Except String ImportTaskSuccess × Nat) × S
  | (.error message, s) => ((.error message, 1), s)
  | (.ok (.ok success), s) => ((.ok success, 1), s)
  | (.ok (.error message), s) =>
    match again with
    | none => ((.error message, 1), s)
    | some again =>
      if !isRetryableImportError message then ((.error message, 1), s)
      else
        let rest := again s
        ((rest.1.1, rest.1.2 + 1), rest.2)

/-- The loop, with so many attempts left after the next. -/
def importAttempts : Nat → S → (Except String ImportTaskSuccess × Nat) × S
  | 0, s => settleAttempt none ((attemptImport store request).run.run s)
  | left + 1, s =>
    settleAttempt (some (importAttempts left)) ((attemptImport store request).run.run s)

def executeImportWithRetry (s : S) : (Except String ImportTaskSuccess × Nat) × S :=
  importAttempts store request 2 s

/-! ## What a retry is for -/

/-- How an attempt ends. -/
def attemptOutcome (s : S) : Except String ImportTaskSuccess × S :=
  match (attemptImport store request).run.run s with
  | (.error message, s) => (.error message, s)
  | (.ok result, s) => (result, s)

/-- How an attempt ends after some others. -/
def outcomeAfter : (others : Nat) → S → Except String ImportTaskSuccess
  | 0, s => (attemptOutcome store request s).1
  | others + 1, s => outcomeAfter others (attemptOutcome store request s).2

/-- A success after transient errors is returned, and an error is returned only after three
attempts or when it is not transient. -/
def RetriesTransient (s : S) : Prop :=
  (∀ others < 3, ∀ success,
    (∀ i < others, ∃ message, outcomeAfter store request i s = .error message ∧
      isRetryableImportError message = true) →
    outcomeAfter store request others s = .ok success →
    (executeImportWithRetry store request s).1.1 = .ok success) ∧
  ∀ message, (executeImportWithRetry store request s).1.1 = .error message →
    (executeImportWithRetry store request s).1.2 = 3 ∨ isRetryableImportError message = false

end Import

section Retries

variable {S : Type} {store : ImportDataStore S} {request : ImportTaskRequest} {s : S}

/-- What an attempt leaves for the loop to look at is a success. -/
def ShowsSuccess (attempt : ExceptT String (StateM S) (Except String ImportTaskSuccess)) : Prop :=
  ∀ s result s', attempt.run.run s = (.ok result, s') → ∃ success, result = .ok success

theorem showsSuccess_pure (success : ImportTaskSuccess) :
    ShowsSuccess (pure (.ok success) : ExceptT String (StateM S) _) := by
  rintro s result s' ⟨⟩
  exact ⟨success, rfl⟩

theorem showsSuccess_throw (message : String) :
    ShowsSuccess (throw message : ExceptT String (StateM S) _) := by
  rintro s result s' ⟨⟩

theorem showsSuccess_bind {α : Type} (call : ExceptT String (StateM S) α)
    {next : α → ExceptT String (StateM S) (Except String ImportTaskSuccess)}
    (hnext : ∀ a, ShowsSuccess (next a)) : ShowsSuccess (call >>= next) := by
  intro s result s' hrun
  simp only [ExceptT.run_bind, StateT.run_bind] at hrun
  cases hcall : call.run.run s with
  | mk outcome s'' =>
      rw [hcall] at hrun
      cases outcome with
      | error message => cases hrun
      | ok a => exact hnext a s'' result s' hrun

theorem attemptImport_showsSuccess : ShowsSuccess (attemptImport store request) := by
  cases request with
  | oauthRefresh req =>
      refine showsSuccess_bind _ fun created => showsSuccess_bind _ fun records => ?_
      dsimp only
      split
      · exact showsSuccess_bind _ fun _ => showsSuccess_throw _
      · exact showsSuccess_pure _
  | oneTimeAccessToken req =>
      exact showsSuccess_bind _ fun upserted => showsSuccess_pure _
  | manualRefreshAccount accountId =>
      refine showsSuccess_bind _ fun _ => showsSuccess_bind _ fun accounts => ?_
      split
      · exact showsSuccess_throw _
      · exact showsSuccess_pure _

/-- The first attempt is the only one. -/
theorem executeImportWithRetry_eq :
    (executeImportWithRetry store request s).1 = ((attemptOutcome store request s).1, 1) := by
  rw [executeImportWithRetry, importAttempts, attemptOutcome]
  cases hrun : (attemptImport store request).run.run s with
  | mk outcome s' =>
      cases outcome with
      | error message => rfl
      | ok result =>
          rcases attemptImport_showsSuccess s result s' hrun with ⟨success, rfl⟩
          rfl

end Retries

/-- Transient failures are retried exactly when the first attempt does not end in one. -/
theorem retriesTransient_iff {S : Type} (store : ImportDataStore S) (request : ImportTaskRequest)
    (s : S) : RetriesTransient store request s ↔
      ∀ message, outcomeAfter store request 0 s = .error message →
        isRetryableImportError message = false := by
  rw [RetriesTransient, executeImportWithRetry_eq]
  constructor
  · rintro ⟨-, honly⟩ message hmessage
    rcases honly message hmessage with hthree | hnot
    · cases hthree
    · exact hnot
  · intro hfirst
    refine ⟨?_, fun message hmessage => Or.inr (hfirst message hmessage)⟩
    intro others hothers success hbefore hsuccess
    cases others with
    | zero => exact hsuccess
    | succ others =>
        rcases hbefore 0 (Nat.succ_pos others) with ⟨message, hmessage, hretryable⟩
        rw [hfirst message hmessage] at hretryable
        cases hretryable

/-- The account that `flakyStore` refreshes. -/
def flakyAccount : UpstreamAccount where
  id := ⟨"acct-7"⟩
  label := "acct"
  mode := .codexOauth
  baseUrl := "https://chatgpt.com/backend-api/codex"
  bearerToken := "token"
  chatgptAccountId := none
  enabled := true
  priority := 100
  createdAt := 0

/-- A store whose first refresh of an account meets a lost connection. It counts the refreshes. -/
def flakyStore : ImportDataStore Nat where
  queueOauthRefreshToken := fun _ => pure true
  oauthInventoryRecords := pure []
  deleteOauthInventoryRecord := fun _ => pure ()
  upsertOneTimeSessionAccount := fun _ => pure (true, flakyAccount)
  refreshOauthAccount := fun _ => ExceptT.mk fun refreshes =>
    (if refreshes = 0 then .error "connection reset by peer" else .ok (), refreshes + 1)
  listUpstreamAccounts := pure [flakyAccount]

/-- The second refresh would have succeeded. -/
theorem flakyStore_not_retried :
    ¬ RetriesTransient flakyStore (.manualRefreshAccount ⟨"acct-7"⟩) 0 := by
  intro hretries
  have hreturned := hretries.1 1 (by decide) (accountSuccess false flakyAccount)
    (fun i hi => ⟨"connection reset by peer", by obtain rfl := Nat.lt_one_iff.1 hi; rfl,
      by decide +kernel⟩) rfl
  rw [executeImportWithRetry_eq] at hreturned
  cases hreturned

end CodexPool
