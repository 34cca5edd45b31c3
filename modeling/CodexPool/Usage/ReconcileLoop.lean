import CodexPool.Lib.Machine
import CodexPool.Lib.Paging
import CodexPool.Tenant.Billing
import CodexPool.Usage.Event
import Mathlib.Data.Prod.Lex
import Mathlib.Data.String.Basic

/-!
# The reconcile loop

The control plane settles holds from the request log. A tick of its loop walks through the log
of a lookback window, page by page behind a `(created_at, id)` cursor, and applies each fact
of a page. The cursor of the tick moves with every fact, and becomes the cursor of the loop
when the tick ends.
-/

namespace CodexPool

open Saturating

/-! ## Facts -/

structure ReconcileCursor where
  createdAt : Int
  id : String
deriving DecidableEq

namespace ReconcileCursor

instance : LinearOrder ReconcileCursor :=
  LinearOrder.lift' (fun c => toLex (c.createdAt, c.id)) fun c c' h => by
    cases c
    cases c'
    cases h
    rfl

theorem lt_iff {c c' : ReconcileCursor} :
    c < c' ↔ c.createdAt < c'.createdAt ∨ c.createdAt = c'.createdAt ∧ c.id < c'.id :=
  Prod.Lex.toLex_lt_toLex

end ReconcileCursor

structure BillingReconcileFact where
  id : Uuid
  tenantId : Uuid
  apiKeyId : Option Uuid
  requestId : String
  model : Option String
  serviceTier : Option String
  inputTokens : Option I64
  outputTokens : Option I64
  statusCode : Nat
  billingPhase : Option String
  captureStatus : Option String
  createdAt : DateTime

namespace BillingReconcileFact

/-- The columns that the query selects, for a row whose tenant and request are not null. -/
def fromRow (row : RequestLogRow) : Option BillingReconcileFact :=
  row.tenantId.bind fun tenantId =>
    row.requestId.map fun requestId =>
      { id := row.id, tenantId, apiKeyId := row.apiKeyId, requestId, model := row.model
        serviceTier := row.serviceTier, inputTokens := row.inputTokens
        outputTokens := row.outputTokens, statusCode := row.statusCode
        billingPhase := row.billingPhase, captureStatus := row.captureStatus
        createdAt := timestamp row.createdAt * seconds 1 }

variable (fact : BillingReconcileFact)

def cursor : ReconcileCursor := ⟨timestamp fact.createdAt, fact.id.text⟩

/-- The conditions of the query, its cursor apart. -/
def inWindow (startTs endTs : Int) : Bool :=
  startTs ≤ timestamp fact.createdAt ∧ timestamp fact.createdAt ≤ endTs ∧
    200 ≤ fact.statusCode ∧ fact.statusCode < 300 ∧
    (fact.billingPhase = some "released" ∨ fact.inputTokens.isSome ∨ fact.outputTokens.isSome)

/-- The request that the loop makes of a fact. -/
def request : BillingReconcileFactRequest where
  tenantId := fact.tenantId
  apiKeyId := fact.apiKeyId
  requestId := fact.requestId
  model := fact.model
  serviceTier := fact.serviceTier
  inputTokens := fact.inputTokens
  cachedInputTokens := none
  outputTokens := fact.outputTokens
  reasoningTokens := none

end BillingReconcileFact

/-- The facts that the query finds behind its cursor, without its limit. -/
def visibleFacts (log : List RequestLogRow) (startTs endTs : Int) (cursor : ReconcileCursor) :
    List BillingReconcileFact :=
  (log.filterMap BillingReconcileFact.fromRow).filter fun fact =>
    fact.inWindow startTs endTs && cursor < fact.cursor

def fetchBillingReconcileFacts (log : List RequestLogRow) (startTs endTs : Int)
    (cursor : ReconcileCursor) (limit : Nat) : List BillingReconcileFact :=
  Paging.page BillingReconcileFact.cursor (min (max limit 1) 10000)
    (visibleFacts log startTs endTs cursor)

/-! ## The loop -/

def minBillingReconcileBatch : Nat := 1

def maxBillingReconcileBatch : Nat := 5000

structure ReconcileConfig where
  batch : Nat
  lookbackSec : Nat
  batch_mem : minBillingReconcileBatch ≤ batch ∧ batch ≤ maxBillingReconcileBatch

/-- The environment variables, parsed. -/
def ReconcileConfig.fromEnv (batch lookbackSec : Option Nat) : ReconcileConfig where
  batch := min (max (batch.getD 200) minBillingReconcileBatch) maxBillingReconcileBatch
  lookbackSec := min (max (lookbackSec.getD (24 * 60 * 60)) 60) (30 * 24 * 60 * 60)
  batch_mem := ⟨le_min (le_max_right _ _) (by decide), min_le_right _ _⟩

def mergeReconcileStats (total delta : BillingReconcileStats) : BillingReconcileStats where
  scanned := total.scanned.satAdd delta.scanned
  adjusted := total.adjusted.satAdd delta.adjusted
  releasedAuthorizations := total.releasedAuthorizations.satAdd delta.releasedAuthorizations
  adjustedMicrocreditsTotal :=
    total.adjustedMicrocreditsTotal.satAdd delta.adjustedMicrocreditsTotal

/-- A tick of the loop. `facts` are those of the page that are still to be applied. -/
structure ReconcileTick where
  nowTs : Int
  lookbackStartTs : Int
  localCursor : ReconcileCursor
  requestLogStats : BillingReconcileStats := {}
  facts : List BillingReconcileFact := []
  lastPage : Bool := false
  fetchFailed : Bool := false

/-- The walk through the pages is over. -/
def ReconcileTick.ended (tick : ReconcileTick) : Bool :=
  tick.facts.isEmpty && (tick.lastPage || tick.fetchFailed)

structure ReconcileLoop where
  cursor : ReconcileCursor
  tick : Option ReconcileTick := none

namespace ReconcileLoop

variable (config : ReconcileConfig) (loop : ReconcileLoop)

/-- The cursor with which a tick starts. -/
def cursorAt (lookbackStartTs : Int) (fullSweepDue : Bool) : ReconcileCursor :=
  if fullSweepDue || loop.cursor.createdAt < lookbackStartTs then ⟨lookbackStartTs, ""⟩
  else loop.cursor

def start (nowTs : Int) (fullSweepDue : Bool) : ReconcileLoop :=
  let lookbackStartTs := nowTs - config.lookbackSec
  let cursor := loop.cursorAt lookbackStartTs fullSweepDue
  { cursor, tick := some { nowTs, lookbackStartTs, localCursor := cursor } }

/-- The facts that a fetch finds, without its limit. -/
def visible (log : List RequestLogRow) (tick : ReconcileTick) : List BillingReconcileFact :=
  visibleFacts log tick.lookbackStartTs tick.nowTs tick.localCursor

def fetched (log : List RequestLogRow) (tick : ReconcileTick) : ReconcileTick :=
  let facts := fetchBillingReconcileFacts log tick.lookbackStartTs tick.nowTs tick.localCursor
    config.batch
  { tick with facts, lastPage := facts.length < config.batch }

/-- The cursor moves whether the fact could be applied or not. -/
def applied (fact : BillingReconcileFact) (rest : List BillingReconcileFact)
    (outcome : Result BillingReconcileStats) (tick : ReconcileTick) : ReconcileTick :=
  { tick with
    requestLogStats :=
      match outcome with
      | .ok stats => mergeReconcileStats tick.requestLogStats stats
      | .error _ => tick.requestLogStats
    localCursor := fact.cursor
    facts := rest }

def committed (tick : ReconcileTick) : ReconcileCursor :=
  if tick.requestLogStats.scanned = 0 then
    if tick.fetchFailed then loop.cursor else ⟨tick.nowTs, ""⟩
  else tick.localCursor

end ReconcileLoop

/-! ## Runs -/

/-- The loop and the log that it reads, with the facts that the fetches of the last tick could
see, those of them that could not be applied, and all that have been applied. -/
structure ReconcileRun where
  log : List RequestLogRow
  loop : ReconcileLoop
  seen : List ReconcileCursor := []
  failed : List ReconcileCursor := []
  applied : List ReconcileCursor := []

inductive ReconcileInput where
  | insert (row : RequestLogRow)
  | start (nowTs : Int) (fullSweepDue : Bool)
  | fetch (succeeds : Bool)
  | apply (outcome : Result BillingReconcileStats)
  | commit

namespace ReconcileRun

variable (config : ReconcileConfig) (s : ReconcileRun)

def setTick (tick : ReconcileTick) : ReconcileRun :=
  { s with loop := { s.loop with tick := some tick } }

def fetchStep (succeeds : Bool) (tick : ReconcileTick) : ReconcileRun :=
  if !tick.facts.isEmpty || tick.ended then s
  else if succeeds then
    { s with
      seen := s.seen ++ (ReconcileLoop.visible s.log tick).map BillingReconcileFact.cursor }.setTick
      (ReconcileLoop.fetched config s.log tick)
  else s.setTick { tick with fetchFailed := true }

def applyStep (outcome : Result BillingReconcileStats) (tick : ReconcileTick) : ReconcileRun :=
  match tick.facts, outcome with
  | [], _ => s
  | fact :: rest, .ok _ =>
    { s with applied := s.applied ++ [fact.cursor] }.setTick
      (ReconcileLoop.applied fact rest outcome tick)
  | fact :: rest, .error _ =>
    { s with failed := s.failed ++ [fact.cursor] }.setTick
      (ReconcileLoop.applied fact rest outcome tick)

def step (s : ReconcileRun) : ReconcileInput → ReconcileRun
  | .insert row => { s with log := s.log ++ [row] }
  | .start nowTs fullSweepDue =>
    match s.loop.tick with
    | some _ => s
    | none =>
      { s with loop := s.loop.start config nowTs fullSweepDue, seen := [], failed := [] }
  | .fetch succeeds =>
    match s.loop.tick with
    | some tick => s.fetchStep config succeeds tick
    | none => s
  | .apply outcome =>
    match s.loop.tick with
    | some tick => s.applyStep outcome tick
    | none => s
  | .commit =>
    match s.loop.tick with
    | some tick =>
      if tick.ended then { s with loop := { cursor := s.loop.committed tick } } else s
    | none => s

/-- Every fact that the last tick could see has been applied, or is still ahead of the
cursor. -/
def NothingSkipped : Prop :=
  ∀ k ∈ s.seen, k ∈ s.applied ∨ s.loop.cursor < k

/-- A tick that ends leaves none of its failures behind: what failed has been applied in
another tick, or no fact of this tick was scanned, and either a fetch failed too or the fact is
not older than the tick. -/
def FailsSafely : ReconcileInput → Prop
  | .commit => ∀ tick, s.loop.tick = some tick → tick.ended = true → ∀ k ∈ s.failed,
      k ∈ s.applied ∨ tick.requestLogStats.scanned = 0 ∧
        (tick.fetchFailed = true ∨ ⟨tick.nowTs, ""⟩ < k)
  | _ => True

end ReconcileRun

end CodexPool
