import CodexPool.ControlPlane.OAuthStore

/-!
# Import jobs

An import job is a row with a status and counters, and a list of items. Each item carries the
request that is executed for it, unless its record could not be read. What is kept of an item but
read by no operation on jobs (its file, line, label and email, the raw record, clocks) is left
out.
-/

namespace CodexPool

inductive OAuthImportJobStatus where
  | queued
  | running
  | paused
  | completed
  | failed
  | cancelled
deriving DecidableEq, Repr

inductive OAuthImportItemStatus where
  | pending
  | processing
  | created
  | updated
  | failed
  | skipped
  | cancelled
deriving DecidableEq, Repr

structure UpsertOneTimeSessionAccountRequest where
  label : String
  mode : UpstreamMode
  baseUrl : String
  accessToken : String
  chatgptAccountId : Option String
  enabled : Option Bool
  priority : Option Int
  tokenExpiresAt : Option DateTime
  chatgptPlanType : Option String
  sourceType : Option String

inductive ImportTaskRequest where
  | oauthRefresh (req : ImportOAuthRefreshTokenRequest)
  | oneTimeAccessToken (req : UpsertOneTimeSessionAccountRequest)
  | manualRefreshAccount (accountId : Uuid)

structure OAuthImportJobItem where
  itemId : Nat
  status : OAuthImportItemStatus
  chatgptAccountId : Option String
  accountId : Option Uuid
  errorCode : Option String
  errorMessage : Option String
  admissionStatus : Option OAuthVaultRecordStatus
  admissionSource : Option String
  admissionReason : Option String
  failureStage : Option OAuthInventoryFailureStage
  attemptCount : Nat
  transientRetryCount : Nat
  nextRetryAt : Option DateTime
  retryable : Bool
  terminalReason : Option String

structure PersistedImportItem where
  item : OAuthImportJobItem
  request : Option ImportTaskRequest
  retryCount : Nat

structure ImportJobTask where
  itemId : Nat
  request : ImportTaskRequest

structure ImportTaskSuccess where
  created : Bool
  accountId : Option Uuid
  chatgptAccountId : Option String
  admissionStatus : Option OAuthVaultRecordStatus
  admissionSource : Option String
  admissionReason : Option String
  failureStage : Option OAuthInventoryFailureStage
  attemptCount : Nat
  transientRetryCount : Nat
  nextRetryAt : Option DateTime
  retryable : Bool
  terminalReason : Option String

structure OAuthImportAdmissionCounts where
  ready : Nat
  needsRefresh : Nat
  noQuota : Nat
  failed : Nat
deriving DecidableEq

structure OAuthImportJobSummary where
  status : OAuthImportJobStatus
  total : Nat
  processed : Nat
  createdCount : Nat
  updatedCount : Nat
  failedCount : Nat
  skippedCount : Nat
  admissionCounts : OAuthImportAdmissionCounts
deriving DecidableEq

/-- A job as a store keeps it: in memory as one record, in a database as the row of the job and
the rows of its items. -/
structure ImportJob where
  summary : OAuthImportJobSummary
  items : List PersistedImportItem
  cancelRequested : Bool

namespace OAuthImportItemStatus

/-- The item still waits to be executed or to be marked. -/
def isOpen : OAuthImportItemStatus → Bool
  | pending | processing => true
  | _ => false

def isProcessed : OAuthImportItemStatus → Bool
  | created | updated | failed => true
  | _ => false

end OAuthImportItemStatus

namespace PersistedImportItem

variable (it : PersistedImportItem)

def withStatus (status : OAuthImportItemStatus) : PersistedImportItem :=
  { it with item := { it.item with status := status } }

def isClaimable : Bool := it.item.status = .pending && it.request.isSome

/-- An item that is being processed is to be claimed again. -/
def reset : PersistedImportItem :=
  if it.item.status = .processing then it.withStatus .pending else it

def cancelOpen : PersistedImportItem :=
  if it.item.status.isOpen then it.withStatus .cancelled else it

def succeeded (outcome : ImportTaskSuccess) : PersistedImportItem :=
  { it with
    item := { it.item with
      status := if outcome.created then .created else .updated
      accountId := outcome.accountId
      chatgptAccountId := outcome.chatgptAccountId
      errorCode := none
      errorMessage := none
      admissionStatus := outcome.admissionStatus
      admissionSource := outcome.admissionSource
      admissionReason := outcome.admissionReason
      failureStage := outcome.failureStage
      attemptCount := outcome.attemptCount
      transientRetryCount := outcome.transientRetryCount
      nextRetryAt := outcome.nextRetryAt
      retryable := outcome.retryable
      terminalReason := outcome.terminalReason } }

def failedWith (errorCode errorMessage : String) : PersistedImportItem :=
  { it with
    item := { it.item with
      status := .failed
      errorCode := some errorCode
      errorMessage := some errorMessage
      admissionStatus := some .failed
      admissionSource := none
      admissionReason := some errorCode
      failureStage := none
      attemptCount := 0
      transientRetryCount := 0
      nextRetryAt := none
      retryable := false
      terminalReason := some errorCode } }

end PersistedImportItem

/-! ## Counters -/

def countStatus (p : OAuthImportItemStatus → Bool) (items : List PersistedImportItem) : Nat :=
  items.countP fun it => p it.item.status

def countAdmission (status : OAuthVaultRecordStatus) (items : List PersistedImportItem) : Nat :=
  items.countP fun it => it.item.admissionStatus = some status

def admissionCounts (items : List PersistedImportItem) : OAuthImportAdmissionCounts where
  ready := countAdmission .ready items
  needsRefresh := countAdmission .needsRefresh items
  noQuota := countAdmission .noQuota items
  failed := countAdmission .failed items

/-- Counts the items anew, in the counters that both kinds of stores take from them. -/
def recomputeCounts (summary : OAuthImportJobSummary) (items : List PersistedImportItem) :
    OAuthImportJobSummary :=
  { summary with
    processed := countStatus OAuthImportItemStatus.isProcessed items
    createdCount := countStatus (· = .created) items
    updatedCount := countStatus (· = .updated) items
    failedCount := countStatus (· = .failed) items
    skippedCount := countStatus (· = .skipped) items }

def refreshSummaryCounts (summary : OAuthImportJobSummary) (items : List PersistedImportItem)
    (cancelRequested : Bool) : OAuthImportJobSummary :=
  { recomputeCounts summary items with
    status := if cancelRequested && summary.status = .queued then .cancelled else summary.status
    total := items.length
    admissionCounts := admissionCounts items }

def samplePendingItem : PersistedImportItem where
  item :=
    { itemId := 1
      status := .pending
      chatgptAccountId := none
      accountId := none
      errorCode := none
      errorMessage := none
      admissionStatus := none
      admissionSource := none
      admissionReason := none
      failureStage := none
      attemptCount := 0
      transientRetryCount := 0
      nextRetryAt := none
      retryable := false
      terminalReason := none }
  request := some (.manualRefreshAccount ⟨"account"⟩)
  retryCount := 0

end CodexPool
