import CodexPool.ImportJobs.Job
import CodexPool.Lib.Paging

/-!
# The stores of import jobs

Import jobs are kept in memory, in SQLite or in Postgres. Each store is given by what its
operations do with one job, and by its answers for a job that it does not have. A transaction is
one step.
-/

namespace CodexPool

inductive ImportJobCall where
  | createJob (summary : OAuthImportJobSummary) (items : List PersistedImportItem)
  | startJob (limit : Nat)
  | markItemSuccess (itemId : Nat) (outcome : ImportTaskSuccess)
  | markItemFailed (itemId : Nat) (errorCode errorMessage : String)
  | pauseJob
  | resumeJob
  | cancelJob
  | retryFailed
  | finishJob

inductive ImportJobReply where
  | done
  | tasks (tasks : List ImportJobTask)
  | accepted (accepted : Bool)
  | summary (summary : OAuthImportJobSummary)
  | error (message : String)

/-- What the trait of the stores asks for. -/
structure OAuthImportJobStore where
  createJob : Option ImportJob → OAuthImportJobSummary → List PersistedImportItem →
    Result ImportJob
  getJobSummary : ImportJob → OAuthImportJobSummary
  startJob : ImportJob → Nat → Result (List ImportJobTask × ImportJob)
  markItemSuccess : ImportJob → Nat → ImportTaskSuccess → ImportJob
  markItemFailed : ImportJob → Nat → String → String → ImportJob
  finishJob : ImportJob → ImportJob
  pauseJob : ImportJob → Bool × ImportJob
  resumeJob : ImportJob → Bool × ImportJob
  cancelJob : ImportJob → ImportJob
  retryFailed : ImportJob → Bool × ImportJob
  isRecoverable : ImportJob → Bool
  absentReply : ImportJobCall → ImportJobReply

namespace ImportJob

variable (job : ImportJob)

/-- `start_job` hands out tasks of jobs that are queued or run already. -/
def isStartable : Bool :=
  !job.cancelRequested && (job.summary.status = .queued || job.summary.status = .running)

/-- The items of a job that is started: a job that runs already may have been abandoned. -/
def startedItems : List PersistedImportItem :=
  if job.summary.status = .running then job.items.map PersistedImportItem.reset else job.items

def withStatus (status : OAuthImportJobStatus) : ImportJob :=
  { job with summary := { job.summary with status := status } }

def isPausable : Bool :=
  !job.cancelRequested && (job.summary.status = .queued || job.summary.status = .running)

def isResumable : Bool := !job.cancelRequested && job.summary.status = .paused

/-- The status of a job that is done. -/
def finishedStatus (cancelRequested : Bool) (failedCount : Nat) : OAuthImportJobStatus :=
  if cancelRequested then .cancelled else if failedCount > 0 then .failed else .completed

/-- A cancelled job that does not run is done at once. -/
def cancelsAtOnce : Bool := job.summary.status = .queued || job.summary.status = .paused

end ImportJob

def toTask (it : PersistedImportItem) : Option ImportJobTask :=
  it.request.map fun request => ⟨it.item.itemId, request⟩

/-! ## In memory -/

namespace InMemoryOAuthImportJobStore

def createJob (_ : Option ImportJob) (summary : OAuthImportJobSummary)
    (items : List PersistedImportItem) : Result ImportJob :=
  .ok { summary := summary, items := items, cancelRequested := false }

def refresh (job : ImportJob) (cancelRequested : Bool) : ImportJob :=
  { job with summary := refreshSummaryCounts job.summary job.items cancelRequested }

def getJobSummary (job : ImportJob) : OAuthImportJobSummary :=
  (refresh job job.cancelRequested).summary

/-- Claims the first items that can be claimed, as the loop does in the order of the list. -/
def claim : Nat → List PersistedImportItem → List ImportJobTask × List PersistedImportItem
  | 0, items => ([], items)
  | _, [] => ([], [])
  | limit + 1, it :: items =>
    match it.item.status, it.request with
    | .pending, some request =>
      let claimed := claim limit items
      (⟨it.item.itemId, request⟩ :: claimed.1, it.withStatus .processing :: claimed.2)
    | _, _ =>
      let claimed := claim (limit + 1) items
      (claimed.1, it :: claimed.2)

def startJob (job : ImportJob) (limit : Nat) : Result (List ImportJobTask × ImportJob) :=
  if job.isStartable then
    let claimed := claim limit job.startedItems
    .ok (claimed.1, { job.withStatus .running with items := claimed.2 })
  else .ok ([], job)

/-- Rewrites the first item of the id. -/
def updateItem (itemId : Nat) (update : PersistedImportItem → PersistedImportItem) :
    List PersistedImportItem → List PersistedImportItem
  | [] => []
  | it :: items =>
    if it.item.itemId = itemId then update it :: items else it :: updateItem itemId update items

def mark (job : ImportJob) (itemId : Nat) (update : PersistedImportItem → PersistedImportItem) :
    ImportJob :=
  refresh { job with items := updateItem itemId update job.items } job.cancelRequested

def markItemSuccess (job : ImportJob) (itemId : Nat) (outcome : ImportTaskSuccess) : ImportJob :=
  mark job itemId (·.succeeded outcome)

def markItemFailed (job : ImportJob) (itemId : Nat) (errorCode errorMessage : String) :
    ImportJob :=
  mark job itemId (·.failedWith errorCode errorMessage)

def cancelItems (job : ImportJob) : ImportJob :=
  { job with items := job.items.map PersistedImportItem.cancelOpen }

def finishJob (job : ImportJob) : ImportJob :=
  let closed := if job.cancelRequested then cancelItems job else job
  let counted := refresh closed job.cancelRequested
  counted.withStatus (ImportJob.finishedStatus job.cancelRequested counted.summary.failedCount)

def pauseJob (job : ImportJob) : Bool × ImportJob :=
  (job.isPausable, if job.isPausable then job.withStatus .paused else job)

def resumeJob (job : ImportJob) : Bool × ImportJob :=
  (job.isResumable,
    if job.isResumable then
      refresh { job.withStatus .queued with items := job.items.map PersistedImportItem.reset } false
    else job)

def cancelJob (job : ImportJob) : ImportJob :=
  let flagged := { job with cancelRequested := true }
  if job.cancelsAtOnce then (refresh (cancelItems flagged) true).withStatus .cancelled
  else flagged

def retryItem (it : PersistedImportItem) : PersistedImportItem :=
  if it.item.status = .failed && it.request.isSome then
    { it with
      item := { it.item with
        status := .pending
        errorCode := none
        errorMessage := none
        accountId := none }
      retryCount := it.retryCount + 1 }
  else it

def retryFailed (job : ImportJob) : Bool × ImportJob :=
  if job.summary.status = .running then (false, job)
  else
    (true,
      refresh
        { job.withStatus .queued with
          items := job.items.map retryItem
          cancelRequested := false }
        false)

/-- Jobs in memory are not recovered. -/
def isRecoverable (_ : ImportJob) : Bool := false

def absentReply : ImportJobCall → ImportJobReply
  | .createJob _ _ => .done
  | _ => .error "job not found"

end InMemoryOAuthImportJobStore

def inMemoryOAuthImportJobStore : OAuthImportJobStore where
  createJob := InMemoryOAuthImportJobStore.createJob
  getJobSummary := InMemoryOAuthImportJobStore.getJobSummary
  startJob := InMemoryOAuthImportJobStore.startJob
  markItemSuccess := InMemoryOAuthImportJobStore.markItemSuccess
  markItemFailed := InMemoryOAuthImportJobStore.markItemFailed
  finishJob := InMemoryOAuthImportJobStore.finishJob
  pauseJob := InMemoryOAuthImportJobStore.pauseJob
  resumeJob := InMemoryOAuthImportJobStore.resumeJob
  cancelJob := InMemoryOAuthImportJobStore.cancelJob
  retryFailed := InMemoryOAuthImportJobStore.retryFailed
  isRecoverable := InMemoryOAuthImportJobStore.isRecoverable
  absentReply := InMemoryOAuthImportJobStore.absentReply

/-! ## In a database

Both databases do most operations alike. -/

namespace SqlOAuthImportJobStore

/-- The keys of the two tables are the id of the job, and that with the id of the item. -/
def createJob (jobError itemError : String) (stored : Option ImportJob)
    (summary : OAuthImportJobSummary) (items : List PersistedImportItem) : Result ImportJob :=
  if stored.isSome then .error jobError
  else if (items.map (·.item.itemId)).Nodup then
    .ok { summary := summary, items := items, cancelRequested := false }
  else .error itemError

def getJobSummary (job : ImportJob) : OAuthImportJobSummary :=
  { job.summary with admissionCounts := admissionCounts job.items }

/-- `ORDER BY item_id ASC LIMIT ..` over some rows. -/
def firstRows (limit : Nat) (rows : List PersistedImportItem) : List PersistedImportItem :=
  Paging.page (·.item.itemId) limit rows

def claimRows (rows items : List PersistedImportItem) : List PersistedImportItem :=
  items.map fun it =>
    if it.item.itemId ∈ rows.map (·.item.itemId) && it.item.status = .pending then
      it.withStatus .processing
    else it

def claimed (job : ImportJob) (rows : List PersistedImportItem) : ImportJob :=
  { job.withStatus .running with items := claimRows rows job.startedItems }

def isProcessing (itemId : Nat) (it : PersistedImportItem) : Bool :=
  it.item.itemId = itemId && it.item.status = .processing

def mark (job : ImportJob) (itemId : Nat) (update : PersistedImportItem → PersistedImportItem)
    (count : OAuthImportJobSummary → OAuthImportJobSummary) : ImportJob :=
  { job with
    summary := if job.items.any (isProcessing itemId) then count job.summary else job.summary
    items := job.items.map fun it => if isProcessing itemId it then update it else it }

def countSuccess (created : Bool) (summary : OAuthImportJobSummary) : OAuthImportJobSummary :=
  if created then
    { summary with processed := summary.processed + 1, createdCount := summary.createdCount + 1 }
  else
    { summary with processed := summary.processed + 1, updatedCount := summary.updatedCount + 1 }

def countFailure (summary : OAuthImportJobSummary) : OAuthImportJobSummary :=
  { summary with processed := summary.processed + 1, failedCount := summary.failedCount + 1 }

def markItemSuccess (job : ImportJob) (itemId : Nat) (outcome : ImportTaskSuccess) : ImportJob :=
  mark job itemId (·.succeeded outcome) (countSuccess outcome.created)

def markItemFailed (job : ImportJob) (itemId : Nat) (errorCode errorMessage : String) :
    ImportJob :=
  mark job itemId (·.failedWith errorCode errorMessage) countFailure

/-- `finish_job` closes the items of a job that was cancelled when it read the row. -/
def closeItems (cancelRequested : Bool) (job : ImportJob) : ImportJob :=
  if cancelRequested then { job with items := job.items.map PersistedImportItem.cancelOpen }
  else job

/-- `finish_job` writes the row with what it has counted. -/
def writeFinished (job : ImportJob) (cancelRequested : Bool) (counts : OAuthImportJobSummary) :
    ImportJob :=
  { job with
    summary := { counts with
      status := ImportJob.finishedStatus cancelRequested counts.failedCount
      total := job.summary.total } }

def finishJob (job : ImportJob) : ImportJob :=
  let closed := closeItems job.cancelRequested job
  writeFinished closed job.cancelRequested (recomputeCounts closed.summary closed.items)

def pauseJob (job : ImportJob) : Bool × ImportJob :=
  (job.isPausable, if job.isPausable then job.withStatus .paused else job)

def resumeJob (job : ImportJob) : Bool × ImportJob :=
  (job.isResumable,
    if job.isResumable then
      { job.withStatus .queued with
        items := job.items.map PersistedImportItem.reset
        cancelRequested := false }
    else job)

def cancelJob (job : ImportJob) : ImportJob :=
  let flagged := { job with cancelRequested := true }
  if job.cancelsAtOnce then flagged.withStatus .cancelled else flagged

def retryItem (it : PersistedImportItem) : PersistedImportItem :=
  if it.item.status = .failed && it.request.isSome then
    { it with
      item := { it.item with
        status := .pending
        errorCode := none
        errorMessage := none
        accountId := none
        admissionStatus := none
        admissionSource := none
        admissionReason := none
        failureStage := none
        attemptCount := 0
        transientRetryCount := 0
        nextRetryAt := none
        retryable := false
        terminalReason := none }
      retryCount := it.retryCount + 1 }
  else it

def retryFailed (job : ImportJob) : Bool × ImportJob :=
  if job.summary.status = .running then (false, job)
  else
    let items := job.items.map retryItem
    (true,
      { summary := { recomputeCounts job.summary items with status := .queued }
        items := items
        cancelRequested := false })

def isRecoverable (job : ImportJob) : Bool :=
  (job.summary.status = .queued || job.summary.status = .running) && !job.cancelRequested

/-- Updates of rows that are not there succeed. -/
def absentReply : ImportJobCall → ImportJobReply
  | .createJob _ _ => .done
  | .markItemSuccess _ _ | .markItemFailed _ _ _ => .done
  | .cancelJob => .accepted true
  | _ => .error "job not found"

end SqlOAuthImportJobStore

namespace SqliteOAuthImportJobStore

open SqlOAuthImportJobStore

/-- The pending items are picked whether they have a request or not. -/
def startJob (job : ImportJob) (limit : Nat) : Result (List ImportJobTask × ImportJob) :=
  if job.isStartable then
    let rows := firstRows limit (job.startedItems.filter (·.item.status = .pending))
    if rows.all (·.request.isSome) then .ok (rows.filterMap toTask, claimed job rows)
    else .error "missing request_json for processing item"
  else .ok ([], job)

end SqliteOAuthImportJobStore

namespace PostgresOAuthImportJobStore

open SqlOAuthImportJobStore

def startJob (job : ImportJob) (limit : Nat) : Result (List ImportJobTask × ImportJob) :=
  if job.isStartable then
    let rows := firstRows (max limit 1) (job.startedItems.filter PersistedImportItem.isClaimable)
    .ok (rows.filterMap toTask, claimed job rows)
  else .ok ([], job)

end PostgresOAuthImportJobStore

/-- A store in a database, given by the texts of its errors and by how it starts a job. -/
def sqlOAuthImportJobStore (jobError itemError : String)
    (startJob : ImportJob → Nat → Result (List ImportJobTask × ImportJob)) :
    OAuthImportJobStore where
  createJob := SqlOAuthImportJobStore.createJob jobError itemError
  getJobSummary := SqlOAuthImportJobStore.getJobSummary
  startJob := startJob
  markItemSuccess := SqlOAuthImportJobStore.markItemSuccess
  markItemFailed := SqlOAuthImportJobStore.markItemFailed
  finishJob := SqlOAuthImportJobStore.finishJob
  pauseJob := SqlOAuthImportJobStore.pauseJob
  resumeJob := SqlOAuthImportJobStore.resumeJob
  cancelJob := SqlOAuthImportJobStore.cancelJob
  retryFailed := SqlOAuthImportJobStore.retryFailed
  isRecoverable := SqlOAuthImportJobStore.isRecoverable
  absentReply := SqlOAuthImportJobStore.absentReply

def sqliteOAuthImportJobStore : OAuthImportJobStore :=
  sqlOAuthImportJobStore "failed to insert sqlite oauth import job"
    "failed to insert sqlite oauth import job item" SqliteOAuthImportJobStore.startJob

def postgresOAuthImportJobStore : OAuthImportJobStore :=
  sqlOAuthImportJobStore "failed to insert oauth import job"
    "failed to insert oauth import job item" PostgresOAuthImportJobStore.startJob

end CodexPool
