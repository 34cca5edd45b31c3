import CodexPool.Lib.Delivery
import CodexPool.Lib.Machine
import CodexPool.Usage.Event

/-!
# The usage worker

The workers read the request log events from a Redis stream, as consumers of one group: an
entry that has been delivered is pending until it is acked, and a pending entry that has been
idle for long enough may be claimed again, by its own consumer as well. A worker buffers what
it reads. A flush writes the log rows of the buffer, then the three kinds of hourly rows, and
acks the entries last. Each of these calls may fail, with or without an effect, and a worker
may be restarted at any point.
-/

namespace CodexPool

/-! ## The stream and its group -/

/-- An entry of the stream. Its event is missing where the payload is or does not parse. -/
structure StreamEntry where
  id : String
  event : Option RequestLogEvent
  tenantId : Option Uuid
  apiKeyId : Option Uuid

def parseMessage (entry : StreamEntry) : Option StreamMessage :=
  entry.event.map fun event => ⟨entry.id, event, entry.tenantId, entry.apiKeyId⟩

/-- How a call to Redis or ClickHouse ends: with an answer, or with an error before or after
it has had its effect. -/
inductive CallOutcome where
  | done
  | refused
  | unanswered
deriving DecidableEq

namespace CallOutcome

def applied : CallOutcome → Bool
  | done | unanswered => true
  | refused => false

def answered : CallOutcome → Bool
  | done => true
  | refused | unanswered => false

end CallOutcome

structure StreamGroup where
  entries : List StreamEntry := []
  /-- How many entries have been delivered. -/
  delivered : Nat := 0
  pending : List String := []

/-- The calls of a read: the read itself, and the ack of the malformed entries it brings. -/
structure ReadCalls where
  read : CallOutcome
  ackInvalid : CallOutcome

namespace StreamGroup

variable (g : StreamGroup)

def ack (messageIds : List String) : StreamGroup :=
  { g with pending := g.pending.filter (· ∉ messageIds) }

/-- The pending entries among the idle ones, in the order of the stream. -/
def reclaimable (count : Nat) (idle : List String) : List StreamEntry :=
  (g.entries.filter fun e => e.id ∈ g.pending && e.id ∈ idle).take count

/-- The entries that come next. -/
def fresh (count : Nat) : List StreamEntry := (g.entries.drop g.delivered).take count

def deliver (count : Nat) : StreamGroup :=
  { g with
    delivered := g.delivered + (g.fresh count).length
    pending := g.pending ++ (g.fresh count).map (·.id) }

def deliveredMessages : List StreamMessage :=
  (g.entries.take g.delivered).filterMap parseMessage

end StreamGroup

def parseMessagesAndAckInvalid (entries : List StreamEntry) (ackInvalid : CallOutcome)
    (g : StreamGroup) : Option (List StreamMessage) × StreamGroup :=
  let messages := entries.filterMap parseMessage
  let malformedEntries := entries.filter (·.event.isNone)
  if malformedEntries.isEmpty then (some messages, g)
  else
    (if ackInvalid.answered then some messages else none,
      if ackInvalid.applied then g.ack (malformedEntries.map (·.id)) else g)

/-- `XAUTOCLAIM` from the start of the stream. -/
def reclaimPending (count : Nat) (idle : List String) (calls : ReadCalls) (g : StreamGroup) :
    Option (List StreamMessage) × StreamGroup :=
  match calls.read with
  | .done => parseMessagesAndAckInvalid (g.reclaimable count idle) calls.ackInvalid g
  | .refused | .unanswered => (none, g)

/-- `XREADGROUP` with `>`. -/
def readGroup (count : Nat) (calls : ReadCalls) (g : StreamGroup) :
    Option (List StreamMessage) × StreamGroup :=
  match calls.read with
  | .done => parseMessagesAndAckInvalid (g.fresh count) calls.ackInvalid (g.deliver count)
  | .refused => (none, g)
  | .unanswered => (none, g.deliver count)

/-! ## The repository -/

/-- The order in which a flush makes its calls. -/
inductive FlushStage where
  | requestLogs
  | accountRows
  | tenantApiKeyRows
  | tenantAccountRows
  | ack
deriving DecidableEq

namespace FlushStage

def next : FlushStage → Option FlushStage
  | requestLogs => some accountRows
  | accountRows => some tenantApiKeyRows
  | tenantApiKeyRows => some tenantAccountRows
  | tenantAccountRows => some ack
  | ack => none

/-- The log rows of the batch are written. -/
def logged : FlushStage → Bool
  | requestLogs => false
  | _ => true

/-- The account rows of the batch are written. -/
def counted : FlushStage → Bool
  | requestLogs | accountRows => false
  | _ => true

/-- An insertion without rows makes no call. -/
def makesCall (messages : List StreamMessage) : FlushStage → Bool
  | requestLogs | ack => true
  | accountRows => !(hourlyRows messages).accountRows.isEmpty
  | tenantApiKeyRows => !(hourlyRows messages).tenantApiKeyRows.isEmpty
  | tenantAccountRows => !(hourlyRows messages).tenantAccountRows.isEmpty

end FlushStage

/-- What the repository holds, with the batches whose account rows it has been given. -/
structure UsageRepo where
  requestLogs : List RequestLogRow := []
  accountBatches : List (List StreamMessage) := []
  tenantApiKeyRows : List HourlyTenantApiKeyUsageRow := []
  tenantAccountRows : List HourlyTenantAccountUsageRow := []

namespace UsageRepo

variable (repo : UsageRepo)

def accountRows : List HourlyAccountUsageRow :=
  repo.accountBatches.flatMap fun messages => (hourlyRows messages).accountRows

def write (messages : List StreamMessage) : FlushStage → UsageRepo
  | .requestLogs =>
    { repo with requestLogs := repo.requestLogs ++ messages.map (·.requestLogRow) }
  | .accountRows => { repo with accountBatches := repo.accountBatches ++ [messages] }
  | .tenantApiKeyRows =>
    { repo with
      tenantApiKeyRows := repo.tenantApiKeyRows ++ (hourlyRows messages).tenantApiKeyRows }
  | .tenantAccountRows =>
    { repo with
      tenantAccountRows := repo.tenantAccountRows ++ (hourlyRows messages).tenantAccountRows }
  | .ack => repo

def hourlyTotal (accountId : Uuid) (hour : Int) : Nat :=
  Tally.sumWhere (·.requestCount)
    (fun r => r.accountId = accountId ∧ timestamp r.hourStart = hour) repo.accountRows

/-- The repository as it would be without the account rows of one entry. -/
def without (messageId : String) : UsageRepo :=
  { repo with
    accountBatches := repo.accountBatches.map fun messages =>
      messages.filter (·.messageId ≠ messageId) }

def contribution (message : StreamMessage) : Nat :=
  let hour := hourOf message.event.createdAt
  repo.hourlyTotal message.event.accountId hour -
    (repo.without message.messageId).hourlyTotal message.event.accountId hour

end UsageRepo

/-! ## The workers -/

/-- The messages that the hourly rows count. -/
def countable (messages : List StreamMessage) : List StreamMessage :=
  messages.filter fun m => !m.event.isStreamingOpen


/-- A worker between two polls, in a poll after the reclaim, or in a flush. -/
inductive UsageWorker where
  | polling (buffered : List StreamMessage)
  | reading (buffered reclaimed : List StreamMessage)
  | flushing (stage : FlushStage) (messages : List StreamMessage)

/-- The messages that the worker has in memory. -/
def UsageWorker.messages : UsageWorker → List StreamMessage
  | polling buffered => buffered
  | reading buffered reclaimed => buffered ++ reclaimed
  | flushing _ messages => messages

/-- Those of them whose account rows it has not written yet. -/
def UsageWorker.uncounted : UsageWorker → List StreamMessage
  | polling buffered => buffered
  | reading buffered reclaimed => buffered ++ reclaimed
  | flushing stage messages => if stage.counted then [] else messages

structure UsageWorld where
  group : StreamGroup := {}
  repo : UsageRepo := {}
  workers : String → UsageWorker := fun _ => .polling []

/-- What may happen next. Workers are named by their consumer names. -/
inductive UsageInput where
  | append (entry : StreamEntry)
  | reclaim (consumer : String) (count : Nat) (idle : List String) (calls : ReadCalls)
  | read (consumer : String) (count : Nat) (calls : ReadCalls)
  | flush (consumer : String)
  | write (consumer : String) (outcome : CallOutcome)
  | restart (consumer : String)

namespace UsageWorld

variable (s : UsageWorld)

def setWorker (consumer : String) (w : UsageWorker) : UsageWorld :=
  { s with workers := Function.update s.workers consumer w }

/-- The call of a stage of a flush. A flush that fails drops its batch. -/
def writeStage (consumer : String) (stage : FlushStage) (messages : List StreamMessage)
    (outcome : CallOutcome) : UsageWorld :=
  let outcome := if stage.makesCall messages then outcome else .done
  let s :=
    if outcome.applied then
      { s with
        repo := s.repo.write messages stage
        group := if stage = .ack then s.group.ack (messages.map (·.messageId)) else s.group }
    else s
  match outcome.answered, stage.next with
  | true, some next => s.setWorker consumer (.flushing next messages)
  | _, _ => s.setWorker consumer (.polling [])

def step : UsageInput → UsageWorld
  | .append entry =>
    if s.group.entries.any (·.id = entry.id) then s
    else { s with group := { s.group with entries := s.group.entries ++ [entry] } }
  | .reclaim consumer count idle calls =>
    match s.workers consumer with
    | .polling buffered =>
      match reclaimPending count idle calls s.group with
      | (some messages, group) => { s with group }.setWorker consumer (.reading buffered messages)
      | (none, group) => { s with group }
    | _ => s
  | .read consumer count calls =>
    match s.workers consumer with
    | .reading buffered reclaimed =>
      match readGroup count calls s.group with
      | (some fresh, group) =>
        { s with group }.setWorker consumer (.polling (buffered ++ (reclaimed ++ fresh)))
      | (none, group) => { s with group }.setWorker consumer (.polling buffered)
    | _ => s
  | .flush consumer =>
    match s.workers consumer with
    | .polling buffered =>
      if buffered.isEmpty then s
      else s.setWorker consumer (.flushing .requestLogs buffered)
    | _ => s
  | .write consumer outcome =>
    match s.workers consumer with
    | .flushing stage messages => s.writeStage consumer stage messages outcome
    | _ => s
  | .restart consumer => s.setWorker consumer (.polling [])

/-- An acked message has its log row and, unless the request was still running, counts once. -/
def AckedCountedOnce : Prop :=
  ∀ m ∈ s.group.deliveredMessages, m.messageId ∉ s.group.pending →
    m.requestLogRow ∈ s.repo.requestLogs ∧
      (m.event.isStreamingOpen = false → s.repo.contribution m = 1)

/-- Who holds which messages whose account rows are not written, and of which messages they
are written. Messages of requests that were still running are not counted. -/
def ledger : Delivery.Ledger String String where
  held consumer := (countable (s.workers consumer).uncounted).map (·.messageId)
  counted := (countable s.repo.accountBatches.flatten).map (·.messageId)

/-- A reclaim brings only messages that no worker has in memory to count them, and that are not
counted. -/
def ReclaimsLost : UsageInput → Prop
  | .reclaim consumer count idle calls =>
    ∀ buffered, s.workers consumer = .polling buffered →
      ∀ messages ∈ (reclaimPending count idle calls s.group).1,
        ∀ m ∈ countable messages, s.ledger.Free m.messageId
  | _ => True

end UsageWorld

end CodexPool
