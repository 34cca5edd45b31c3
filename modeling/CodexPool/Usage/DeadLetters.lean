import CodexPool.Lib.Text
import CodexPool.Usage.Worker

/-!
# Malformed entries of the stream

An entry without a readable event is written to the dead-letter stream, where one is configured,
and is acked together with the other malformed entries of its batch. The relay only counts what it
could not write: the ack goes out for all of them, and where the ack fails the messages of the
batch are not handed on.
-/

namespace CodexPool

/-- An entry as it is read, with the payload under `event`. -/
structure StreamId where
  id : String
  event : Option String

structure EventIdentityFields where
  tenantId : Option Uuid := none
  apiKeyId : Option Uuid := none

/-- How the payload of an event is read. -/
structure EventCodec where
  event : String → Option RequestLogEvent
  identityFields : String → Option EventIdentityFields

inductive MalformedReasonCode where
  | missingEvent
  | invalidJson
  | other
deriving DecidableEq

def MalformedReasonCode.asStr : MalformedReasonCode → String
  | missingEvent => "missing_event"
  | invalidJson => "invalid_json"
  | other => "other"

structure MalformedStreamEntry where
  messageId : String
  reason : String
  rawEvent : Option String
  reasonCode : MalformedReasonCode
deriving DecidableEq

structure ParsedMessages where
  messages : List StreamMessage
  malformedEntries : List MalformedStreamEntry

def ParsedMessages.invalidMessageIds (parsed : ParsedMessages) : List String :=
  parsed.malformedEntries.map (·.messageId)

/-- Why an entry could not be read, and whether it was its JSON. -/
structure ParseError where
  message : String
  ofJson : Bool

namespace RedisStreamReader

def parseMessage (codec : EventCodec) (entry : StreamId) : Except ParseError StreamMessage :=
  match entry.event with
  | none => .error ⟨"stream entry " ++ entry.id ++ " missing event payload", false⟩
  | some payload =>
    match codec.event payload with
    | none => .error ⟨"failed to deserialize stream entry " ++ entry.id, true⟩
    | some event =>
      let identityFields := (codec.identityFields payload).getD {}
      .ok ⟨entry.id, event, identityFields.tenantId, identityFields.apiKeyId⟩

def classifyMalformedReason (rawEvent : Option String) (error : ParseError) :
    MalformedReasonCode :=
  if rawEvent.isNone then .missingEvent
  else if error.ofJson then .invalidJson
  else .other

def malformedEntry (entry : StreamId) (error : ParseError) : MalformedStreamEntry where
  messageId := entry.id
  reason := error.message
  rawEvent := entry.event
  reasonCode := classifyMalformedReason entry.event error

/-- The loop over a batch takes the next entry. -/
def parseNext (codec : EventCodec) (parsed : ParsedMessages) (entry : StreamId) :
    ParsedMessages :=
  match parseMessage codec entry with
  | .ok message => { parsed with messages := parsed.messages ++ [message] }
  | .error error =>
    { parsed with malformedEntries := parsed.malformedEntries ++ [malformedEntry entry error] }

def parseMessages (codec : EventCodec) (entries : List StreamId) : ParsedMessages :=
  entries.foldl (parseNext codec) ⟨[], []⟩

def malformedRawEventBytesTotal (malformedEntries : List MalformedStreamEntry) : Nat :=
  malformedEntries.foldl
    (fun total entry =>
      match entry.rawEvent with
      | none => total
      | some rawEvent => total + rawEvent.utf8ByteSize)
    0

end RedisStreamReader

/-- A batch is short of `u64::MAX` entries, so that the counters do not saturate. -/
structure MalformedReasonCounts where
  malformedMissingEventCount : Nat := 0
  malformedInvalidJsonCount : Nat := 0
  malformedOtherCount : Nat := 0
deriving DecidableEq

def RedisStreamReader.malformedReasonCounts (malformedEntries : List MalformedStreamEntry) :
    MalformedReasonCounts :=
  malformedEntries.foldl
    (fun counts entry =>
      match entry.reasonCode with
      | .missingEvent =>
        { counts with malformedMissingEventCount := counts.malformedMissingEventCount + 1 }
      | .invalidJson =>
        { counts with malformedInvalidJsonCount := counts.malformedInvalidJsonCount + 1 }
      | .other => { counts with malformedOtherCount := counts.malformedOtherCount + 1 })
    {}

structure DeadLetterRelayCounts where
  deadLetterRelayAttemptCount : Nat := 0
  deadLetterRelaySkippedCount : Nat := 0
  deadLetterRelaySuccessCount : Nat := 0
  deadLetterRelayFailedCount : Nat := 0
deriving DecidableEq

namespace DeadLetterRelayCounts

def recordOutcome (counts : DeadLetterRelayCounts) (isOk : Bool) : DeadLetterRelayCounts :=
  if isOk then
    { counts with deadLetterRelaySuccessCount := counts.deadLetterRelaySuccessCount + 1 }
  else { counts with deadLetterRelayFailedCount := counts.deadLetterRelayFailedCount + 1 }

def forConfiguredStreamEntries (entryCount : Nat) : DeadLetterRelayCounts :=
  { deadLetterRelayAttemptCount := entryCount }

def forUnconfiguredStream (entryCount : Nat) : DeadLetterRelayCounts :=
  { deadLetterRelaySkippedCount := entryCount }

def forConnectionFailure (entryCount : Nat) : DeadLetterRelayCounts where
  deadLetterRelayAttemptCount := entryCount
  deadLetterRelaySkippedCount := 0
  deadLetterRelaySuccessCount := 0
  deadLetterRelayFailedCount := entryCount

end DeadLetterRelayCounts

structure RedisStreamReader where
  stream : String
  consumerGroup : String
  consumerName : String
  deadLetterStream : Option String

/-- The calls that a batch with malformed entries makes: the connection of the relay, one `XADD`
for each malformed entry, and the ack. -/
structure RelayCalls where
  connected : Bool
  xadd : Nat → CallOutcome
  ack : CallOutcome
  observedAt : String

/-- What the relay has counted, and what it has written. -/
structure Relayed where
  counts : DeadLetterRelayCounts
  deadLetters : List (List (String × String))

structure StreamReadResult where
  messages : List StreamMessage
  malformedAckedCount : Nat
  malformedReasonCounts : MalformedReasonCounts
  malformedRawEventBytesTotal : Nat
  deadLetterRelayCounts : DeadLetterRelayCounts

/-- What a batch comes to: the result, what has been written to the dead-letter stream, and the
ids that have been acked. -/
structure BatchOutcome where
  result : Except String StreamReadResult
  deadLetters : List (List (String × String))
  acked : List String

namespace RedisStreamReader

variable (reader : RedisStreamReader) (codec : EventCodec) (calls : RelayCalls)

/-- The fields under which an entry is kept in the dead-letter stream. -/
def deadLetterFields (entry : MalformedStreamEntry) (observedAt : String) :
    List (String × String) :=
  [("message_id", entry.messageId), ("reason", entry.reason),
    ("reason_code", entry.reasonCode.asStr), ("source_stream", reader.stream),
    ("consumer_group", reader.consumerGroup), ("consumer_name", reader.consumerName),
    ("observed_at", observedAt)] ++
  match entry.rawEvent with
  | some rawEvent => [("raw_event", rawEvent)]
  | none => [("raw_event_missing", "true")]

/-- The loop over the malformed entries, from the `i`-th one on. -/
def relayEntries : Nat → List MalformedStreamEntry → Relayed → Relayed
  | _, [], relayed => relayed
  | i, entry :: rest, relayed =>
    let fields := reader.deadLetterFields entry calls.observedAt
    relayEntries (i + 1) rest
      ⟨relayed.counts.recordOutcome (calls.xadd i).answered,
        if (calls.xadd i).applied then relayed.deadLetters ++ [fields]
        else relayed.deadLetters⟩

def relayMalformedToDeadLetter (malformedEntries : List MalformedStreamEntry) : Relayed :=
  match reader.deadLetterStream with
  | none => ⟨.forUnconfiguredStream malformedEntries.length, []⟩
  | some _ =>
    if calls.connected then
      reader.relayEntries calls 0 malformedEntries
        ⟨.forConfiguredStreamEntries malformedEntries.length, []⟩
    else ⟨.forConnectionFailure malformedEntries.length, []⟩

def parseMessagesAndAckInvalid (entries : List StreamId) : BatchOutcome :=
  let parsed := parseMessages codec entries
  let malformedAckedCount := parsed.malformedEntries.length
  let result (counts : DeadLetterRelayCounts) : StreamReadResult :=
    { messages := parsed.messages
      malformedAckedCount := malformedAckedCount
      malformedReasonCounts := malformedReasonCounts parsed.malformedEntries
      malformedRawEventBytesTotal := malformedRawEventBytesTotal parsed.malformedEntries
      deadLetterRelayCounts := counts }
  if malformedAckedCount > 0 then
    let relayed := reader.relayMalformedToDeadLetter calls parsed.malformedEntries
    { result :=
        if calls.ack.answered then .ok (result relayed.counts)
        else .error "failed to ack malformed redis stream entries"
      deadLetters := relayed.deadLetters
      acked := if calls.ack.applied then parsed.invalidMessageIds else [] }
  else { result := .ok (result {}), deadLetters := [], acked := [] }

end RedisStreamReader

/-! ## What a batch should come to -/

namespace BatchOutcome

variable (outcome : BatchOutcome)

/-- The messages that are handed on. -/
def messages : List StreamMessage :=
  match outcome.result with
  | .ok result => result.messages
  | .error _ => []

/-- The ids of the entries in the dead-letter stream. -/
def deadLetterIds : List String := outcome.deadLetters.filterMap (·.lookup "message_id")

end BatchOutcome

/-- The messages of a batch. -/
def wellFormedMessages (codec : EventCodec) (entries : List StreamId) : List StreamMessage :=
  entries.filterMap fun entry => (RedisStreamReader.parseMessage codec entry).toOption

/-- The malformed entries of a batch. -/
def malformedEntriesOf (codec : EventCodec) (entries : List StreamId) :
    List MalformedStreamEntry :=
  entries.filterMap fun entry =>
    match RedisStreamReader.parseMessage codec entry with
    | .ok _ => none
    | .error error => some (RedisStreamReader.malformedEntry entry error)

/-- Each malformed entry that is acked has been written, all the messages are handed on, and the
counts say what has been done. -/
structure KeepsMalformed (codec : EventCodec) (entries : List StreamId)
    (outcome : BatchOutcome) : Prop where
  written : outcome.acked.Subperm outcome.deadLetterIds
  returned : outcome.messages = wellFormedMessages codec entries
  counted : ∀ result, outcome.result = .ok result →
    result.deadLetterRelayCounts.deadLetterRelayAttemptCount =
      result.deadLetterRelayCounts.deadLetterRelaySuccessCount +
        result.deadLetterRelayCounts.deadLetterRelayFailedCount ∧
    result.malformedAckedCount = outcome.acked.length

/-- The relay reaches the dead-letter stream with each of `n` entries. -/
def RelayCalls.writeAll (calls : RelayCalls) (n : Nat) : Prop :=
  calls.connected = true ∧ ∀ j < n, (calls.xadd j).applied = true

/-! ## Parsing -/

section Parsing

variable {codec : EventCodec} {entries : List StreamId}

theorem parseMessages_foldl (parsed : ParsedMessages) :
    entries.foldl (RedisStreamReader.parseNext codec) parsed =
      ⟨parsed.messages ++ wellFormedMessages codec entries,
        parsed.malformedEntries ++ malformedEntriesOf codec entries⟩ := by
  induction entries generalizing parsed with
  | nil => simp [wellFormedMessages, malformedEntriesOf]
  | cons entry rest ih =>
      rw [List.foldl_cons, ih, RedisStreamReader.parseNext]
      cases hparse : RedisStreamReader.parseMessage codec entry with
      | ok message =>
          simp [wellFormedMessages, malformedEntriesOf, hparse, Except.toOption]
      | error error =>
          simp [wellFormedMessages, malformedEntriesOf, hparse, Except.toOption]

theorem parseMessages_eq : RedisStreamReader.parseMessages codec entries =
    ⟨wellFormedMessages codec entries, malformedEntriesOf codec entries⟩ := by
  exact (parseMessages_foldl ⟨[], []⟩).trans (by simp only [List.nil_append])

end Parsing

/-! ## The relay -/

section Relay

variable {reader : RedisStreamReader} {calls : RelayCalls}

/-- The entries that the relay writes, from the `i`-th one on. -/
def writtenEntries (calls : RelayCalls) : Nat → List MalformedStreamEntry →
    List MalformedStreamEntry
  | _, [] => []
  | i, entry :: rest =>
    if (calls.xadd i).applied then entry :: writtenEntries calls (i + 1) rest
    else writtenEntries calls (i + 1) rest

theorem writtenEntries_sublist (i : Nat) (entries : List MalformedStreamEntry) :
    (writtenEntries calls i entries).Sublist entries := by
  induction entries generalizing i with
  | nil => exact List.Sublist.slnil
  | cons entry rest ih =>
      simp only [writtenEntries]
      split
      · exact (ih (i + 1)).cons_cons entry
      · exact (ih (i + 1)).cons entry

theorem writtenEntries_eq_iff (i : Nat) (entries : List MalformedStreamEntry) :
    writtenEntries calls i entries = entries ↔
      ∀ j < entries.length, (calls.xadd (i + j)).applied = true := by
  induction entries generalizing i with
  | nil => simp [writtenEntries]
  | cons entry rest ih =>
      simp only [writtenEntries, List.length_cons, Nat.forall_lt_succ_left, Nat.add_zero]
      cases happlied : (calls.xadd i).applied with
      | true =>
          simp [ih, Nat.add_assoc, Nat.add_comm 1]
      | false =>
          have hlength : (writtenEntries calls (i + 1) rest).length ≤ rest.length :=
            (writtenEntries_sublist (i + 1) rest).length_le
          constructor
          · intro heq
            have := congrArg List.length heq
            simp only [Bool.false_eq_true, if_false, List.length_cons] at this
            omega
          · rintro ⟨hcontra, -⟩
            cases hcontra

theorem relayEntries_deadLetters (i : Nat) (entries : List MalformedStreamEntry)
    (relayed : Relayed) :
    (reader.relayEntries calls i entries relayed).deadLetters =
      relayed.deadLetters ++
        (writtenEntries calls i entries).map (reader.deadLetterFields · calls.observedAt) := by
  induction entries generalizing i relayed with
  | nil => simp [RedisStreamReader.relayEntries, writtenEntries]
  | cons entry rest ih =>
      simp only [RedisStreamReader.relayEntries, writtenEntries, ih]
      split <;> simp

variable (reader calls) in
theorem relayEntries_counts (i : Nat) (entries : List MalformedStreamEntry)
    (relayed : Relayed) :
    let counts := (reader.relayEntries calls i entries relayed).counts
    counts.deadLetterRelayAttemptCount = relayed.counts.deadLetterRelayAttemptCount ∧
      counts.deadLetterRelaySuccessCount + counts.deadLetterRelayFailedCount =
        relayed.counts.deadLetterRelaySuccessCount +
          relayed.counts.deadLetterRelayFailedCount + entries.length := by
  induction entries generalizing i relayed with
  | nil => exact ⟨rfl, rfl⟩
  | cons entry rest ih =>
      obtain ⟨hattempts, htried⟩ := ih (i + 1)
        ⟨relayed.counts.recordOutcome (calls.xadd i).answered,
          if (calls.xadd i).applied then
            relayed.deadLetters ++ [reader.deadLetterFields entry calls.observedAt]
          else relayed.deadLetters⟩
      refine ⟨hattempts.trans ?_, htried.trans ?_⟩
      · unfold DeadLetterRelayCounts.recordOutcome
        split <;> rfl
      · unfold DeadLetterRelayCounts.recordOutcome
        split <;> simp only [List.length_cons] <;> omega

theorem relayMalformedToDeadLetter_counts (hconfigured : reader.deadLetterStream.isSome)
    (entries : List MalformedStreamEntry) :
    let counts := (reader.relayMalformedToDeadLetter calls entries).counts
    counts.deadLetterRelayAttemptCount =
      counts.deadLetterRelaySuccessCount + counts.deadLetterRelayFailedCount := by
  obtain ⟨stream, hstream⟩ := Option.isSome_iff_exists.1 hconfigured
  simp only [RedisStreamReader.relayMalformedToDeadLetter, hstream]
  cases calls.connected with
  | false => simp [DeadLetterRelayCounts.forConnectionFailure]
  | true =>
      obtain ⟨hattempts, htried⟩ := relayEntries_counts reader calls 0
        entries ⟨.forConfiguredStreamEntries entries.length, []⟩
      simp only [if_true]
      rw [hattempts, htried]
      simp [DeadLetterRelayCounts.forConfiguredStreamEntries]

theorem relayMalformedToDeadLetter_ids (hconfigured : reader.deadLetterStream.isSome)
    (entries : List MalformedStreamEntry) :
    (reader.relayMalformedToDeadLetter calls entries).deadLetters.filterMap
        (·.lookup "message_id") =
      if calls.connected then (writtenEntries calls 0 entries).map (·.messageId) else [] := by
  obtain ⟨stream, hstream⟩ := Option.isSome_iff_exists.1 hconfigured
  simp only [RedisStreamReader.relayMalformedToDeadLetter, hstream]
  cases calls.connected with
  | false => rfl
  | true =>
      simp only [if_true, relayEntries_deadLetters, List.nil_append, List.filterMap_map]
      rw [← List.filterMap_eq_map]
      rfl

variable (calls) in
/-- The ids of all the entries are written exactly when each of the calls writes. -/
theorem subperm_written_iff (hconfigured : reader.deadLetterStream.isSome)
    (entries : List MalformedStreamEntry) (hne : entries ≠ []) :
    (entries.map (·.messageId)).Subperm
        ((reader.relayMalformedToDeadLetter calls entries).deadLetters.filterMap
          (·.lookup "message_id")) ↔
      calls.writeAll entries.length := by
  rw [relayMalformedToDeadLetter_ids hconfigured]
  unfold RelayCalls.writeAll
  cases calls.connected with
  | false =>
      simp only [Bool.false_eq_true, if_false, false_and, iff_false, List.subperm_nil]
      simpa using hne
  | true =>
      have hall : writtenEntries calls 0 entries = entries ↔ _ := writtenEntries_eq_iff 0 entries
      simp only [Nat.zero_add] at hall
      simp only [if_true, true_and, ← hall]
      constructor
      · intro hsub
        refine (writtenEntries_sublist 0 entries).eq_of_length_le ?_
        simpa using hsub.length_le
      · intro heq
        rw [heq]

end Relay

/-! ## A batch -/

section Batch

variable {reader : RedisStreamReader} {codec : EventCodec} {calls : RelayCalls}
  {entries : List StreamId}

theorem parseMessagesAndAckInvalid_of_wellFormed
    (hnil : malformedEntriesOf codec entries = []) :
    KeepsMalformed codec entries
      (reader.parseMessagesAndAckInvalid codec calls entries) := by
  unfold RedisStreamReader.parseMessagesAndAckInvalid
  simp only [parseMessages_eq, hnil]
  refine ⟨List.nil_subperm, rfl, ?_⟩
  rintro result ⟨⟩
  exact ⟨rfl, rfl⟩

variable (reader calls) in
/-- What a batch with malformed entries comes to. -/
theorem parseMessagesAndAckInvalid_of_malformed
    (hne : malformedEntriesOf codec entries ≠ []) :
    let outcome := reader.parseMessagesAndAckInvalid codec calls entries
    let relayed := reader.relayMalformedToDeadLetter calls (malformedEntriesOf codec entries)
    outcome.messages =
        (if calls.ack.answered then wellFormedMessages codec entries else []) ∧
      outcome.deadLetters = relayed.deadLetters ∧
      outcome.acked =
        (if calls.ack.applied then (malformedEntriesOf codec entries).map (·.messageId) else []) ∧
      ∀ result, outcome.result = .ok result → calls.ack.answered = true ∧
        result.deadLetterRelayCounts = relayed.counts ∧
        result.malformedAckedCount = (malformedEntriesOf codec entries).length := by
  have hpos : (malformedEntriesOf codec entries).length > 0 := List.length_pos_of_ne_nil hne
  simp only [RedisStreamReader.parseMessagesAndAckInvalid, parseMessages_eq, hpos, if_true,
    BatchOutcome.messages, ParsedMessages.invalidMessageIds]
  cases calls.ack.answered with
  | true =>
      refine ⟨rfl, trivial, trivial, ?_⟩
      rintro result ⟨⟩
      exact ⟨rfl, rfl, rfl⟩
  | false =>
      refine ⟨rfl, trivial, trivial, ?_⟩
      rintro result ⟨⟩

theorem CallOutcome.applied_of_answered {outcome : CallOutcome}
    (hanswered : outcome.answered = true) : outcome.applied = true := by
  cases outcome with
  | done => rfl
  | refused => cases hanswered
  | unanswered => rfl

end Batch

/-- A batch keeps its malformed entries and hands its messages on exactly when it has no malformed
entries, or when what it acks has all been written and a failing ack holds no message back. -/
theorem parseMessagesAndAckInvalid_keeps_iff (reader : RedisStreamReader) (codec : EventCodec)
    (calls : RelayCalls) (entries : List StreamId)
    (hconfigured : reader.deadLetterStream.isSome) :
    KeepsMalformed codec entries (reader.parseMessagesAndAckInvalid codec calls entries) ↔
      malformedEntriesOf codec entries = [] ∨
        ((calls.ack.applied = false ∨ calls.writeAll (malformedEntriesOf codec entries).length) ∧
          (calls.ack.answered = true ∨ wellFormedMessages codec entries = [])) := by
  by_cases hnil : malformedEntriesOf codec entries = []
  · simp [hnil, parseMessagesAndAckInvalid_of_wellFormed]
  obtain ⟨hmessages, hletters, hacked, hresult⟩ :=
    parseMessagesAndAckInvalid_of_malformed reader calls hnil
  have hids := subperm_written_iff calls hconfigured _ hnil
  simp only [hnil, false_or]
  constructor
  · intro hkeeps
    have hwritten := hkeeps.written
    have hreturned := hkeeps.returned
    rw [hmessages] at hreturned
    rw [hacked, BatchOutcome.deadLetterIds, hletters] at hwritten
    refine ⟨?_, ?_⟩
    · cases happlied : calls.ack.applied with
      | false => exact Or.inl rfl
      | true => exact Or.inr (hids.1 (by simpa [happlied] using hwritten))
    · cases hanswered : calls.ack.answered with
      | true => exact Or.inl rfl
      | false => exact Or.inr (by simpa [hanswered] using hreturned.symm)
  · rintro ⟨hwritten, hreturned⟩
    refine ⟨?_, ?_, ?_⟩
    · rw [hacked, BatchOutcome.deadLetterIds, hletters]
      rcases hwritten with hrefused | hall
      · simp [hrefused]
      · split
        · exact hids.2 hall
        · exact List.nil_subperm
    · rw [hmessages]
      rcases hreturned with hanswered | hnone
      · simp [hanswered]
      · simp [hnone]
    · intro result hok
      obtain ⟨hanswered, hcounts, hcount⟩ := hresult result hok
      rw [hcounts, hcount, hacked, CallOutcome.applied_of_answered hanswered]
      exact ⟨relayMalformedToDeadLetter_counts hconfigured _, by simp⟩

/-- Nothing is in the way of these calls. -/
def RelayCalls.allDone : RelayCalls where
  connected := true
  xadd := fun _ => .done
  ack := .done
  observedAt := "2026-01-01T00:00:00+00:00"

def sampleReader : RedisStreamReader where
  stream := "requests"
  consumerGroup := "usage"
  consumerName := "worker-1"
  deadLetterStream := some "requests-dead"

/-- The codec of a stream the events of which all have the payload `event`. -/
def plainEventCodec : EventCodec where
  event := fun payload => if payload = "event" then some (sampleLogEvent "a" "captured") else none
  identityFields := fun _ => none

/-- A message between an entry without an event and one that cannot be read. -/
def mixedEntries : List StreamId :=
  [⟨"1-0", none⟩, ⟨"2-0", some "event"⟩, ⟨"3-0", some "garbled"⟩]

theorem parseMessagesAndAckInvalid_keeps_mixed :
    KeepsMalformed plainEventCodec mixedEntries
      (sampleReader.parseMessagesAndAckInvalid plainEventCodec .allDone mixedEntries) :=
  (parseMessagesAndAckInvalid_keeps_iff sampleReader plainEventCodec .allDone mixedEntries
    rfl).2 (Or.inr ⟨Or.inr ⟨rfl, fun _ _ => rfl⟩, Or.inl rfl⟩)

/-- Where the relay cannot connect, the entry is acked all the same. -/
theorem parseMessagesAndAckInvalid_loses :
    ¬ ∀ (reader : RedisStreamReader) (codec : EventCodec) (calls : RelayCalls)
        (entries : List StreamId), reader.deadLetterStream.isSome →
      KeepsMalformed codec entries (reader.parseMessagesAndAckInvalid codec calls entries) := by
  intro hall
  have hkeeps := hall sampleReader plainEventCodec
    { RelayCalls.allDone with connected := false } [⟨"1-0", none⟩] rfl
  have hlength := hkeeps.written.length_le
  revert hlength
  decide

end CodexPool
