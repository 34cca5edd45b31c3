import CodexPool.Basic
import CodexPool.Lib.Keyed
import CodexPool.Lib.Machine
import CodexPool.Lib.Paging
import Mathlib.Data.String.Basic

/-!
# Jobs that refresh rate limits

A job goes through all accounts whose rate limits can be asked for, page by page and in small
chunks, and adds up what it meets. A job is created when none is queued or running, which takes
two statements, and jobs that were running when the process ended are failed by the next one.
-/

namespace CodexPool

inductive OAuthRateLimitRefreshJobStatus where
  | queued
  | running
  | completed
  | failed
deriving DecidableEq

def OAuthRateLimitRefreshJobStatus.isActive : OAuthRateLimitRefreshJobStatus → Bool
  | queued | running => true
  | completed | failed => false

/-- `ON CONFLICT (job_id, error_code) DO UPDATE SET count = count + ..` -/
def addErrorCount (errorCode : String) (count : Nat) : List (String × Nat) → List (String × Nat)
  | [] => [(errorCode, count)]
  | (code, n) :: counts =>
    if code = errorCode then (code, n + count) :: counts
    else (code, n) :: addErrorCount errorCode count counts

def addErrorCounts (counts more : List (String × Nat)) : List (String × Nat) :=
  more.foldl (fun counts entry => addErrorCount entry.1 entry.2 counts) counts

def errorTotal (counts : List (String × Nat)) : Nat := (counts.map (·.2)).sum

structure RateLimitRefreshBatchStats where
  processed : Nat
  success : Nat
  failed : Nat
  errorCounts : List (String × Nat)

def RateLimitRefreshBatchStats.ofResults (results : List (Option String)) :
    RateLimitRefreshBatchStats where
  processed := results.length
  success := (results.filter Option.isNone).length
  failed := (results.filter Option.isSome).length
  errorCounts := addErrorCounts [] ((results.filterMap id).map fun code => (code, 1))

/-- A row of `oauth_rate_limit_refresh_jobs`, with its errors. `steady` is not stored: it says that
the targets have not changed between the count of the job's run and its latest progress. -/
structure OAuthRateLimitRefreshJob where
  id : Uuid
  status : OAuthRateLimitRefreshJobStatus
  total : Nat
  processed : Nat
  successCount : Nat
  failedCount : Nat
  startedAt : Option DateTime
  finishedAt : Option DateTime
  createdAt : DateTime
  errors : List (String × Nat)
  steady : Bool
deriving DecidableEq

namespace OAuthRateLimitRefreshJob

variable (job : OAuthRateLimitRefreshJob)

def created (jobId : Uuid) (now : DateTime) : OAuthRateLimitRefreshJob where
  id := jobId
  status := .queued
  total := 0
  processed := 0
  successCount := 0
  failedCount := 0
  startedAt := none
  finishedAt := none
  createdAt := now
  errors := []
  steady := true

def markRunning (now : DateTime) : OAuthRateLimitRefreshJob :=
  { job with status := .running, startedAt := some now }

def setTotal (total : Nat) : OAuthRateLimitRefreshJob := { job with total }

def appendProgress (stats : RateLimitRefreshBatchStats) (steady : Bool) :
    OAuthRateLimitRefreshJob :=
  { job with
    processed := job.processed + stats.processed
    successCount := job.successCount + stats.success
    failedCount := job.failedCount + stats.failed
    errors := addErrorCounts job.errors stats.errorCounts
    steady := job.steady && steady }

def finish (now : DateTime) : OAuthRateLimitRefreshJob :=
  { job with status := .completed, finishedAt := some now }

def markFailed (now : DateTime) : OAuthRateLimitRefreshJob :=
  { job with
    status := .failed
    failedCount := job.failedCount + 1
    finishedAt := some now
    errors := addErrorCount "internal_error" 1 job.errors }

/-- The rows of the jobs that were listed get an error; all that run are failed. -/
def recover (listed : List Uuid) (now : DateTime) : OAuthRateLimitRefreshJob :=
  let failed := if job.status = .running then
      { job with status := .failed, finishedAt := some (job.finishedAt.getD now) }
    else job
  if job.id ∈ listed then
    { failed with errors := addErrorCount "job_recovered_after_restart" 1 job.errors }
  else failed

/-- The numbers of a job add up, and they are within the total as long as the targets stay the
same. -/
structure Sound : Prop where
  processed : job.processed = job.successCount + job.failedCount
  errors : errorTotal job.errors = job.failedCount
  total : job.steady = true → job.processed ≤ job.total

end OAuthRateLimitRefreshJob

/-! ## Calls that interleave -/

inductive CreateJobCall where
  | idle
  | noneActive

/-- Where a run stands in its loop. -/
inductive RefreshRunStage where
  | counting
  | counted (total : Nat)
  | paging (cursor : Option Uuid)
  | refreshing (page : List Uuid) (cursor : Option Uuid) (full : Bool)
  | appending (stats : RateLimitRefreshBatchStats) (page : List Uuid) (cursor : Option Uuid)
      (full : Bool)
  | finishing

inductive RefreshRun where
  | idle
  | starting (jobId : Uuid)
  | running (jobId : Uuid) (stage : RefreshRunStage) (steady : Bool)
  | failing (jobId : Uuid)

inductive RefreshStatement where
  | markRunning
  | count
  | setTotal
  | loadPage
  | refresh (outcome : Uuid → Option String)
  | append
  | finish

/-- The jobs, the calls that create them, run them and recover them, and the accounts that can be
refreshed at the moment. -/
structure RefreshJobs where
  jobs : List OAuthRateLimitRefreshJob
  creators : Nat → CreateJobCall
  runs : Nat → RefreshRun
  recoveries : Nat → Option (List Uuid)
  targets : List Uuid

structure RefreshJobsConfig where
  batchSize : Nat
  concurrency : Nat

inductive RefreshJobsOp where
  | check (c : Nat)
  | insert (c : Nat) (jobId : Uuid) (now : DateTime)
  | stopCreate (c : Nat)
  | startRun (r : Nat) (jobId : Uuid)
  | statement (r : Nat) (statement : RefreshStatement) (now : DateTime) (reported : Bool)
  | failStatement (r : Nat)
  | markFailed (r : Nat) (now : DateTime) (applied : Bool)
  | stopRun (r : Nat)
  | listRunning (q : Nat)
  | recover (q : Nat) (now : DateTime)
  | stopRecovery (q : Nat)
  | setTargets (targets : List Uuid)

namespace RefreshJobs

variable (cfg : RefreshJobsConfig) (w : RefreshJobs)

def job? (jobId : Uuid) : Option OAuthRateLimitRefreshJob :=
  Keyed.lookupBy OAuthRateLimitRefreshJob.id w.jobs jobId

def updateJob (jobId : Uuid) (f : OAuthRateLimitRefreshJob → OAuthRateLimitRefreshJob) :
    RefreshJobs :=
  { w with jobs := w.jobs.map fun job => if job.id = jobId then f job else job }

def setCreator (c : Nat) (call : CreateJobCall) : RefreshJobs :=
  { w with creators := Function.update w.creators c call }

def setRun (r : Nat) (run : RefreshRun) : RefreshJobs :=
  { w with runs := Function.update w.runs r run }

def setRecovery (q : Nat) (listed : Option (List Uuid)) : RefreshJobs :=
  { w with recoveries := Function.update w.recoveries q listed }

/-! ## Creation -/

def anyActive : Bool := w.jobs.any (·.status.isActive)

/-- A job that is queued or running is answered as it is. -/
def check (c : Nat) : RefreshJobs :=
  match w.creators c with
  | .idle => if w.anyActive then w else w.setCreator c .noneActive
  | .noneActive => w

/-- The id is the key of the table. -/
def insert (c : Nat) (jobId : Uuid) (now : DateTime) : RefreshJobs :=
  match w.creators c with
  | .idle => w
  | .noneActive =>
    if (w.job? jobId).isSome then w.setCreator c .idle
    else { w.setCreator c .idle with jobs := w.jobs ++ [.created jobId now] }

/-! ## Runs -/

def startRun (r : Nat) (jobId : Uuid) : RefreshJobs :=
  match w.runs r with
  | .idle => w.setRun r (.starting jobId)
  | _ => w

def markRunning (r : Nat) (jobId : Uuid) (now : DateTime) : RefreshJobs :=
  match w.job? jobId with
  | none => w.setRun r (.failing jobId)
  | some job =>
    if job.status = .queued then
      (w.updateJob jobId (·.markRunning now)).setRun r (.running jobId .counting true)
    else w.setRun r .idle

/-- `a.id > cursor` -/
def isAfter (cursor : Option Uuid) (accountId : Uuid) : Bool :=
  cursor.all (·.text < accountId.text)

def targetsAfter (cursor : Option Uuid) : List Uuid := w.targets.filter (isAfter cursor)

/-- `ORDER BY a.id ASC LIMIT ..` -/
def page (cursor : Option Uuid) : List Uuid :=
  Paging.page Uuid.text cfg.batchSize (w.targetsAfter cursor)

def loadPage (r : Nat) (jobId : Uuid) (cursor : Option Uuid) (steady : Bool) : RefreshJobs :=
  let page := w.page cfg cursor
  w.setRun r (.running jobId
    (if page.isEmpty then .finishing
    else .refreshing page page.getLast? (decide (cfg.batchSize ≤ page.length))) steady)

/-- The next targets of a page are refreshed together. -/
def refreshChunk (page : List Uuid) (outcome : Uuid → Option String) :
    RateLimitRefreshBatchStats :=
  .ofResults ((page.take (max 1 cfg.concurrency)).map outcome)

/-- What comes after a chunk: the next one, the next page, or the end. -/
def stageAfter (page : List Uuid) (cursor : Option Uuid) (full : Bool) : RefreshRunStage :=
  if page.isEmpty then if full then .paging cursor else .finishing
  else .refreshing page cursor full

/-- One statement of a run that succeeds. -/
def perform (r : Nat) (statement : RefreshStatement) (now : DateTime) : RefreshJobs :=
  match w.runs r, statement with
  | .starting jobId, .markRunning => w.markRunning r jobId now
  | .running jobId .counting _, .count =>
    w.setRun r (.running jobId (.counted w.targets.length) true)
  | .running jobId (.counted total) steady, .setTotal =>
    (w.updateJob jobId (·.setTotal total)).setRun r (.running jobId (.paging none) steady)
  | .running jobId (.paging cursor) steady, .loadPage => w.loadPage cfg r jobId cursor steady
  | .running jobId (.refreshing page cursor full) steady, .refresh outcome =>
    w.setRun r (.running jobId (.appending (refreshChunk cfg page outcome)
      (page.drop (max 1 cfg.concurrency)) cursor full) steady)
  | .running jobId (.appending stats page cursor full) steady, .append =>
    (w.updateJob jobId (·.appendProgress stats steady)).setRun r
      (.running jobId (stageAfter page cursor full) steady)
  | .running jobId .finishing _, .finish =>
    (w.updateJob jobId (·.finish now)).setRun r .idle
  | _, _ => w

/-- A run that meets an error is failed next. -/
def fail (r : Nat) (before : RefreshRun) : RefreshJobs :=
  match before with
  | .idle => w
  | .starting jobId | .running jobId _ _ | .failing jobId => w.setRun r (.failing jobId)

/-- A statement that takes effect may still be reported as an error. -/
def execute (r : Nat) (statement : RefreshStatement) (now : DateTime) (reported : Bool) :
    RefreshJobs :=
  if reported then w.perform cfg r statement now
  else (w.perform cfg r statement now).fail r (w.runs r)

/-- The errors of a job that does not exist cannot be written. -/
def markFailed (r : Nat) (now : DateTime) (applied : Bool) : RefreshJobs :=
  match w.runs r with
  | .failing jobId =>
    if applied then (w.updateJob jobId (·.markFailed now)).setRun r .idle
    else w.setRun r .idle
  | _ => w

/-! ## Recovery -/

def listRunning (q : Nat) : RefreshJobs :=
  let listed := (w.jobs.filter (·.status = .running)).map (·.id)
  if listed.isEmpty then w else w.setRecovery q (some listed)

def recover (q : Nat) (now : DateTime) : RefreshJobs :=
  match w.recoveries q with
  | none => w
  | some listed => { w.setRecovery q none with jobs := w.jobs.map (·.recover listed now) }

def setTargets (targets : List Uuid) : RefreshJobs :=
  { w with
    targets
    runs := fun r => match w.runs r with
      | .running jobId stage _ => .running jobId stage false
      | run => run }

def step (w : RefreshJobs) : RefreshJobsOp → RefreshJobs
  | .check c => w.check c
  | .insert c jobId now => w.insert c jobId now
  | .stopCreate c => w.setCreator c .idle
  | .startRun r jobId => w.startRun r jobId
  | .statement r statement now reported => w.execute cfg r statement now reported
  | .failStatement r => w.fail r (w.runs r)
  | .markFailed r now applied => w.markFailed r now applied
  | .stopRun r => w.setRun r .idle
  | .listRunning q => w.listRunning q
  | .recover q now => w.recover q now
  | .stopRecovery q => w.setRecovery q none
  | .setTargets targets => w.setTargets targets

def start (targets : List Uuid) : RefreshJobs where
  jobs := []
  creators := fun _ => .idle
  runs := fun _ => .idle
  recoveries := fun _ => none
  targets := targets

/-- At most one job is queued or running, and the numbers of every job add up. -/
structure WellBehaved : Prop where
  oneActive : w.jobs.countP (·.status.isActive) ≤ 1
  sound : ∀ job ∈ w.jobs, job.Sound

/-- A job is inserted while none is queued or running, no failure is written for a job, and no
recovery has found one. -/
def Behaves (w : RefreshJobs) : RefreshJobsOp → Prop
  | .insert c jobId _ =>
    match w.creators c with
    | .idle => True
    | .noneActive => w.job? jobId = none → w.anyActive = false
  | .markFailed r _ applied =>
    match w.runs r with
    | .failing jobId => applied = true → w.job? jobId = none
    | _ => True
  | .recover q _ => w.recoveries q = none
  | _ => True

end RefreshJobs

end CodexPool
