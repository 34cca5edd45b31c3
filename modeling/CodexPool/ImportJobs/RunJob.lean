import CodexPool.ImportJobs.Starts
import CodexPool.Lib.Machine

/-!
# Runners of import jobs

A job is run by tasks of its manager: one that is spawned when the job is created, and more when
it is resumed, retried or recovered after a restart. A runner claims a batch of items, executes
their requests, several at a time, marks each item with what has come of it, and claims the next
batch. Once nothing is left it finishes the job. Operators pause, resume, cancel and retry the
job meanwhile. Each call of the store is one step; only `finish_job` of a database is three.
-/

namespace CodexPool

inductive ImportBackend where
  | inMemory
  | sqlite
  | postgres
deriving DecidableEq

def ImportBackend.store : ImportBackend → OAuthImportJobStore
  | inMemory => inMemoryOAuthImportJobStore
  | sqlite => sqliteOAuthImportJobStore
  | postgres => postgresOAuthImportJobStore

structure OAuthImportJobManager where
  backend : ImportBackend
  concurrency : Nat
  claimBatchSize : Nat

/-- What a call of `execute_import_with_retry` has come to. -/
inductive ImportTaskResult where
  | succeeded (outcome : ImportTaskSuccess)
  | failed (errorCode errorMessage : String)

def ImportTaskResult.isSuccess : ImportTaskResult → Bool
  | succeeded _ => true
  | failed _ _ => false

/-- A call of `execute_import_with_retry`, with its result once it has returned. -/
structure ImportExecution where
  itemId : Nat
  result : Option ImportTaskResult

/-- Where a runner is in `run_job`. -/
inductive RunnerPhase where
  | none
  | starting
  | batch (waiting : List Nat) (running : List ImportExecution)
  | emptied
  | finishing
  | finishClosed (cancelRequested : Bool)
  | finishCounted (cancelRequested : Bool) (counts : OAuthImportJobSummary)

namespace RunnerPhase

def waiting : RunnerPhase → List Nat
  | batch waiting _ => waiting
  | _ => []

def running : RunnerPhase → List ImportExecution
  | batch _ running => running
  | _ => []

/-- The items that the runner has claimed and not marked yet. -/
def held (phase : RunnerPhase) : List Nat := phase.waiting ++ phase.running.map (·.itemId)

/-- The next batch is claimed once all items of the last one are marked. -/
def ofBatch (waiting : List Nat) (running : List ImportExecution) : RunnerPhase :=
  if waiting = [] ∧ running.length = 0 then starting else batch waiting running

end RunnerPhase

/-- A job, its runners in the order in which they were spawned, and the items whose requests have
been executed with success since they were last reset by `retry_failed`. A job in memory is lost
with the process. -/
structure ImportWorld where
  job : Option ImportJob
  runners : Nat → RunnerPhase
  spawned : Nat
  succeeded : List Nat

/-- A record that has been parsed waits to be executed, or has failed without a request. -/
def ParsedImportItem : Type :=
  { it : PersistedImportItem //
    it.item.status = .pending ∧ it.request.isSome = true ∨
      it.item.status = .failed ∧ it.request = none }

def numbered : Nat → List ParsedImportItem → List PersistedImportItem
  | _, [] => []
  | itemId, it :: items =>
    { it.val with item := { it.val.item with itemId := itemId } } :: numbered (itemId + 1) items

def queuedSummary (total : Nat) : OAuthImportJobSummary where
  status := .queued
  total := total
  processed := 0
  createdCount := 0
  updatedCount := 0
  failedCount := 0
  skippedCount := 0
  admissionCounts := ⟨0, 0, 0, 0⟩

/-- The job that the manager creates. -/
def createdJob (records : List ParsedImportItem) : ImportJob where
  summary := refreshSummaryCounts (queuedSummary records.length) (numbered 1 records) false
  items := numbered 1 records
  cancelRequested := false

inductive ImportOp where
  | startJob (runner : Nat)
  | launch (runner : Nat)
  | complete (runner : Nat) (itemId : Nat) (result : ImportTaskResult)
  | mark (runner : Nat) (itemId : Nat)
  | loseMark (runner : Nat) (itemId : Nat)
  | readSummary (runner : Nat)
  | finishRead (runner : Nat)
  | finishCount (runner : Nat)
  | finishWrite (runner : Nat)
  | failCall (runner : Nat)
  | pauseJob
  | resumeJob
  | cancelJob
  | retryFailed
  | restart

namespace ImportWorld

variable (manager : OAuthImportJobManager) (w : ImportWorld)

def created (records : List ParsedImportItem) : ImportWorld where
  job := some (createdJob records)
  runners := fun runner => if runner = 0 then .starting else .none
  spawned := 1
  succeeded := []

def setRunner (runner : Nat) (phase : RunnerPhase) : ImportWorld :=
  { w with runners := fun other => if other = runner then phase else w.runners other }

def setJob (job : ImportJob) : ImportWorld := { w with job := some job }

def spawnJob : ImportWorld := { w.setRunner w.spawned .starting with spawned := w.spawned + 1 }

/-- A runner whose call of the store fails ends. -/
def started (runner : Nat) : Result (List ImportJobTask × ImportJob) → ImportWorld
  | .ok (tasks, job) =>
    (w.setJob job).setRunner runner
      (if tasks.isEmpty then .emptied else .batch (tasks.map (·.itemId)) [])
  | .error _ => w.setRunner runner .none

/-- The item whose request is executed next, unless enough are. -/
def launched (runner : Nat) : Option Nat :=
  match w.runners runner with
  | .batch (itemId :: _) running =>
    if running.length < max manager.concurrency 1 then some itemId else none
  | _ => none

def launch (runner : Nat) : ImportWorld :=
  match w.launched manager runner with
  | some itemId =>
    w.setRunner runner
      (.batch (w.runners runner).waiting.tail (⟨itemId, none⟩ :: (w.runners runner).running))
  | none => w

/-- The first call for the item that still runs returns. -/
def returned (itemId : Nat) (result : ImportTaskResult) :
    List ImportExecution → Option (List ImportExecution)
  | [] => none
  | execution :: running =>
    if execution.itemId = itemId && execution.result.isNone then
      some ({ execution with result := some result } :: running)
    else (returned itemId result running).map (execution :: ·)

def complete (runner itemId : Nat) (result : ImportTaskResult) : ImportWorld :=
  match returned itemId result (w.runners runner).running with
  | some running =>
    { w.setRunner runner (.batch (w.runners runner).waiting running) with
      succeeded := if result.isSuccess then itemId :: w.succeeded else w.succeeded }
  | none => w

/-- The first call for the item that has returned is taken from the batch. -/
def taken (itemId : Nat) : List ImportExecution →
    Option (ImportTaskResult × List ImportExecution)
  | [] => none
  | execution :: running =>
    match execution.result with
    | some result =>
      if execution.itemId = itemId then some (result, running)
      else (taken itemId running).map fun (result, rest) => (result, execution :: rest)
    | none => (taken itemId running).map fun (result, rest) => (result, execution :: rest)

def marked (job : ImportJob) (itemId : Nat) : ImportTaskResult → ImportJob
  | .succeeded outcome => manager.backend.store.markItemSuccess job itemId outcome
  | .failed errorCode errorMessage =>
    manager.backend.store.markItemFailed job itemId errorCode errorMessage

def mark (job : ImportJob) (runner itemId : Nat) : ImportWorld :=
  match taken itemId (w.runners runner).running with
  | some (result, running) =>
    (w.setJob (marked manager job itemId result)).setRunner runner
      (.ofBatch (w.runners runner).waiting running)
  | none => w

/-- A database that fails to mark an item is ignored. -/
def loseMark (runner itemId : Nat) : ImportWorld :=
  match manager.backend, taken itemId (w.runners runner).running with
  | .inMemory, _ => w
  | _, some (_, running) => w.setRunner runner (.ofBatch (w.runners runner).waiting running)
  | _, none => w

def readSummary (job : ImportJob) (runner : Nat) : ImportWorld :=
  match w.runners runner with
  | .emptied =>
    w.setRunner runner
      (if (manager.backend.store.getJobSummary job).status = .paused then .none else .finishing)
  | _ => w

/-- `finish_job` in memory, and its first transaction in a database. -/
def finishRead (job : ImportJob) (runner : Nat) : ImportWorld :=
  match w.runners runner with
  | .finishing =>
    if manager.backend = .inMemory then
      (w.setJob (manager.backend.store.finishJob job)).setRunner runner .none
    else
      (w.setJob (SqlOAuthImportJobStore.closeItems job.cancelRequested job)).setRunner runner
        (.finishClosed job.cancelRequested)
  | _ => w

def finishCount (job : ImportJob) (runner : Nat) : ImportWorld :=
  match w.runners runner with
  | .finishClosed cancelRequested =>
    w.setRunner runner (.finishCounted cancelRequested (recomputeCounts job.summary job.items))
  | _ => w

def finishWrite (job : ImportJob) (runner : Nat) : ImportWorld :=
  match w.runners runner with
  | .finishCounted cancelRequested counts =>
    (w.setJob (SqlOAuthImportJobStore.writeFinished job cancelRequested counts)).setRunner runner
      .none
  | _ => w

/-- Any other call of a database that fails ends the runner. -/
def failCall (runner : Nat) : ImportWorld :=
  match manager.backend, w.runners runner with
  | .inMemory, _ => w
  | _, .batch _ _ => w
  | _, _ => w.setRunner runner .none

def startJob (job : ImportJob) (runner : Nat) : ImportWorld :=
  match w.runners runner with
  | .starting =>
    w.started runner (manager.backend.store.startJob job (max manager.claimBatchSize 1))
  | _ => w

/-- Resumed and retried jobs get another runner. -/
def acted (action : Bool × ImportJob) : ImportWorld :=
  if action.1 then (w.setJob action.2).spawnJob else w.setJob action.2

def retryFailed (job : ImportJob) : ImportWorld :=
  let retried := (job.items.filter (·.view.isRetried)).map (·.item.itemId)
  let action := manager.backend.store.retryFailed job
  { w.acted action with
    succeeded := if action.1 then w.succeeded.filter (· ∉ retried) else w.succeeded }

/-- The process ends, and `resume_recoverable_jobs` spawns runners in the next one. -/
def restart (job : ImportJob) : ImportWorld :=
  let stopped : ImportWorld :=
    { job := if manager.backend = .inMemory then none else some job
      runners := fun _ => .none
      spawned := w.spawned
      succeeded := [] }
  if manager.backend.store.isRecoverable job then stopped.spawnJob else stopped

def stepOn (job : ImportJob) : ImportOp → ImportWorld
  | .startJob runner => w.startJob manager job runner
  | .launch runner => w.launch manager runner
  | .complete runner itemId result => w.complete runner itemId result
  | .mark runner itemId => w.mark manager job runner itemId
  | .loseMark runner itemId => w.loseMark manager runner itemId
  | .readSummary runner => w.readSummary manager job runner
  | .finishRead runner => w.finishRead manager job runner
  | .finishCount runner => w.finishCount job runner
  | .finishWrite runner => w.finishWrite job runner
  | .failCall runner => w.failCall manager runner
  | .pauseJob => w.setJob (manager.backend.store.pauseJob job).2
  | .resumeJob => w.acted (manager.backend.store.resumeJob job)
  | .cancelJob => w.setJob (manager.backend.store.cancelJob job)
  | .retryFailed => w.retryFailed manager job
  | .restart => w.restart manager job

/-- Every call for a job that is lost fails. -/
def step (op : ImportOp) : ImportWorld :=
  match w.job with
  | some job => w.stepOn manager job op
  | none => w

variable {w} in
theorem setJob_self {job : ImportJob} (hjob : w.job = some job) : w.setJob job = w := by
  rw [setJob, ← hjob]

end ImportWorld

/-! ## Created jobs -/

theorem mem_numbered {first : Nat} {records : List ParsedImportItem} {it : PersistedImportItem}
    (h : it ∈ numbered first records) :
    first ≤ it.item.itemId ∧
      (it.item.status = .pending ∧ it.request.isSome = true ∨
        it.item.status = .failed ∧ it.request = none) := by
  induction records generalizing first with
  | nil => cases h
  | cons record records ih =>
      rcases List.mem_cons.1 h with rfl | hrest
      · exact ⟨le_rfl, record.property⟩
      · exact ⟨(Nat.le_succ first).trans (ih hrest).1, (ih hrest).2⟩

theorem numbered_pairwise (first : Nat) (records : List ParsedImportItem) :
    (numbered first records).Pairwise fun a b => a.item.itemId < b.item.itemId := by
  induction records generalizing first with
  | nil => exact List.Pairwise.nil
  | cons record records ih =>
      apply List.Pairwise.cons
      · intro it hit
        exact (mem_numbered hit).1
      · exact ih (first + 1)

theorem nodup_createdJob (records : List ParsedImportItem) :
    ((createdJob records).items.map (·.item.itemId)).Nodup :=
  List.pairwise_map.2 ((numbered_pairwise 1 records).imp Nat.ne_of_lt)

/-! ## Spawned runners -/

namespace ImportWorld

variable {manager : OAuthImportJobManager} {w : ImportWorld}

variable (manager) in
theorem runners_of_launched {runner itemId : Nat} (h : w.launched manager runner = some itemId) :
    ∃ waiting running, w.runners runner = .batch (itemId :: waiting) running := by
  unfold launched at h
  split at h
  · rename_i id waiting running hrunner
    split at h
    · rw [Option.some.inj h] at hrunner
      exact ⟨waiting, running, hrunner⟩
    · cases h
  · cases h

end ImportWorld

def sampleRecord : ParsedImportItem := ⟨samplePendingItem, .inl ⟨rfl, rfl⟩⟩

def sampleTaskResult : ImportTaskResult :=
  .succeeded
    { created := true
      accountId := some ⟨"account"⟩
      chatgptAccountId := none
      admissionStatus := some .ready
      admissionSource := none
      admissionReason := none
      failureStage := none
      attemptCount := 0
      transientRetryCount := 0
      nextRetryAt := none
      retryable := false
      terminalReason := none }

end CodexPool
