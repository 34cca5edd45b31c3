import CodexPool.Lib.Bytes
import CodexPool.Lib.Json
import Mathlib.Logic.Function.Basic

/-!
# Stored responses

The data plane keeps a record of every background response: the response as it
stands, whether it was cancelled and, when it is streamed, the log of its events.
It also keeps the completed responses of the foreground, and for each conversation
and each session the response to continue from. Every function below takes the lock
of one of the maps once; one that writes two maps takes their locks in turn.

The worker of a background response cuts the bytes that it reads into frames,
and reads an event name and a payload off each of them.
-/

namespace CodexPool

/-! ## Frames of an event stream -/

def findSseFrameEnd (buffer : Bytes) : Option Nat :=
  (Bytes.windowEnd (Bytes.ofAscii "\r\n\r\n") buffer).or
    (Bytes.windowEnd (Bytes.ofAscii "\n\n") buffer)

/-- What was read of a frame so far. -/
structure SseLines where
  eventName : Option String
  payloadLines : List Bytes

namespace SseLines

def read (lines : SseLines) (rawLine : Bytes) : SseLines :=
  let line := Bytes.trimAscii rawLine
  if line.isEmpty then lines
  else
    match Bytes.stripPrefix (Bytes.ofAscii "event:") line with
    | some rawEventName =>
      let event := Bytes.trimAscii rawEventName
      if event.isEmpty then lines
      else { lines with eventName := some (Bytes.fromUtf8Lossy event) }
    | none =>
      match Bytes.stripPrefix (Bytes.ofAscii "data:") line with
      | some rawPayload =>
        let payload := Bytes.trimAscii rawPayload
        if payload.isEmpty then lines
        else { lines with payloadLines := lines.payloadLines ++ [payload] }
      | none => { lines with payloadLines := lines.payloadLines ++ [line] }

end SseLines

/-- The event name and the payload of a frame, `none` when it has no payload. -/
def parseSseFrame (frame : Bytes) : Option (Option String × Bytes) :=
  let lines := (frame.splitOn 0x0A).foldl SseLines.read ⟨none, []⟩
  if lines.payloadLines.isEmpty then none
  else some (lines.eventName, [(0x0A : UInt8)].intercalate lines.payloadLines)

example : parseSseFrame (Bytes.ofAscii "event: done\r\ndata: 1\ndata:2\n\n") =
    some (some "done", Bytes.ofAscii "1\n2") := by decide

/-! ## JSON texts -/

/-- The parser and the printer of JSON texts. -/
structure SerdeJson where
  fromSlice : Bytes → Option Json
  toText : Json → String

/-- The parser of the codec on a text. -/
def SerdeJson.fromStr (codec : SerdeJson) (s : String) : Option Json :=
  codec.fromSlice s.toUTF8.toList

/-- The codec on the texts of a table, for samples. -/
def SerdeJson.ofTable (table : List (String × Json)) : SerdeJson where
  fromSlice bytes := (table.find? fun entry => Bytes.ofAscii entry.1 = bytes).map Prod.snd
  toText _ := ""

theorem SerdeJson.ofTable_cons_self (text : String) (value : Json)
    (table : List (String × Json)) :
    (ofTable ((text, value) :: table)).fromSlice (Bytes.ofAscii text) = some value := by
  simp [ofTable]

theorem SerdeJson.ofTable_cons_of_ne {text : String} {bytes : Bytes}
    (h : Bytes.ofAscii text ≠ bytes) (value : Json) (table : List (String × Json)) :
    (ofTable ((text, value) :: table)).fromSlice bytes = (ofTable table).fromSlice bytes := by
  simp [ofTable, h]

def isSuccess (status : Nat) : Bool := 200 ≤ status && status < 300

/-- The monotonic clock, and the wall clock in seconds. -/
structure Clock where
  instant : Nat
  timestamp : Int

structure StoredStreamEvent where
  sequenceNumber : Nat
  /-- The value that the bytes print. -/
  value : Json
  bytes : String

structure StoredResponseStream where
  events : List StoredStreamEvent
  nextSequenceNumber : Nat
  terminal : Bool

structure StoredResponseRecord where
  ownerKey : String
  response : Json
  allowRetrieve : Bool
  inputItems : List Json
  requestBody : Option Json
  cancelled : Bool
  background : Bool
  streamState : Option StoredResponseStream
  expiresAt : Nat

structure ConversationCursor where
  ownerKey : String
  responseId : String
  expiresAt : Nat

structure BackgroundResponsesRuntime where
  entries : String → Option StoredResponseRecord
  conversations : String → Option ConversationCursor
  continuationCursors : String → Option ConversationCursor
  retention : Nat

/-! ## Values of responses -/

def isTerminalResponseStatus (status : Option String) : Bool :=
  status = some "completed" || status = some "failed" || status = some "cancelled" ||
    status = some "incomplete"

def isTerminalEventType (type : Option String) : Bool :=
  type = some "response.completed" || type = some "response.done" ||
    type = some "response.failed" || type = some "response.incomplete" ||
    type = some "response.cancelled"

def setResponseStatus (response : Json) (status : String) : Json :=
  let response := response.insert "status" (.str status)
  response.insert "background"
    (.bool (((response.get "background").bind Json.asBool).getD true))

def setResponseTimestamp (response : Json) (key : String) (value : Int) : Json :=
  response.insert key (.int value)

def buildResponseStub (requestBody : Json) (responseId status : String)
    (background : Bool) (createdAt : Int) (conversationId : Option String)
    (now : Int) : Json :=
  let field (k : String) (default : Json) := (requestBody.get k).getD default
  let response := Json.ofFields
    [("id", .str responseId), ("object", .str "response"), ("created_at", .int createdAt),
      ("status", .str status), ("background", .bool background), ("error", .null),
      ("incomplete_details", .null), ("instructions", field "instructions" .null),
      ("max_output_tokens", field "max_output_tokens" .null),
      ("model", field "model" .null), ("output", .arr []),
      ("parallel_tool_calls", field "parallel_tool_calls" (.bool true)),
      ("previous_response_id", field "previous_response_id" .null),
      ("store", field "store" (.bool true)), ("temperature", field "temperature" (.int 1)),
      ("text", field "text" (.ofFields [("format", .ofFields [("type", .str "text")])])),
      ("tool_choice", field "tool_choice" (.str "auto")), ("tools", field "tools" (.arr [])),
      ("top_p", field "top_p" (.int 1)),
      ("truncation", field "truncation" (.str "disabled")), ("usage", .null),
      ("metadata", field "metadata" (.ofFields [])),
      ("conversation", Json.ofOption .str conversationId)]
  if status = "completed" then setResponseTimestamp response "completed_at" now
  else response

def buildFailedBackgroundResponse (requestBody : Json) (responseId : String)
    (statusCode : Nat) (error : Json) (conversationId : Option String) (now : Int) : Json :=
  let response := buildResponseStub requestBody responseId "failed" true now
    conversationId now
  (response.insert "error" error).insert "status_code" (.int statusCode)

def rewriteResponseIds (value : Json) (responseId : String) : Json :=
  let value :=
    if (value.get "response_id").isSome then value.insert "response_id" (.str responseId)
    else value
  let value :=
    match value.get "response" with
    | some (.obj fs) =>
      value.insert "response" ((Json.obj fs).insert "id" (.str responseId))
    | _ => value
  if value.getStr "object" = some "response" then value.insert "id" (.str responseId)
  else value

def requestExplicitlyDisablesStore (value : Json) : Bool :=
  (value.get "store").bind Json.asBool = some false

def ensureInputItemShape (item : Json) (responseId : String) (index : Nat) : Json :=
  let item :=
    if (item.get "type").isNone && (item.get "role").isSome && (item.get "content").isSome then
      item.insert "type" (.str "message")
    else item
  item.insertNew "id" (.str ("item_" ++ responseId ++ "_" ++ toString index))

def deriveInputItems (requestBody : Json) (responseId : String) : List Json :=
  let baseItems : List Json := match requestBody.get "input" with
    | some (.str text) =>
      [.ofFields [("type", .str "message"), ("role", .str "user"),
        ("content", .arr [.ofFields [("type", .str "input_text"), ("text", .str text)]])]]
    | some (.arr items) => items
    | some (.obj fields) => [.obj fields]
    | _ => []
  baseItems.mapIdx fun index item => ensureInputItemShape item responseId index

def buildSseFrame (codec : SerdeJson) (eventName : Option String) (eventValue : Json) :
    String :=
  (match eventName with
    | some name => "event: " ++ name ++ "\n"
    | none => "") ++ "data: " ++ codec.toText eventValue ++ "\n\n"

/-- The event of a frame, with the identifier of the stored response. -/
def frameEvent (codec : SerdeJson) (responseId : String) (frame : Bytes) :
    Option (Option String × Json) :=
  (parseSseFrame frame).bind fun parsed =>
    (codec.fromSlice parsed.2).map fun eventValue =>
      (parsed.1, rewriteResponseIds eventValue responseId)

/-! ## The log of a stream -/

namespace StoredResponseStream

def new : StoredResponseStream := ⟨[], 1, false⟩

/-- Appends an event and gives its number, whether it ends the stream, and the
response that it carries. -/
def appendFrame (codec : SerdeJson) (stream : StoredResponseStream)
    (eventName : Option String) (eventValue : Json) :
    StoredResponseStream × Nat × Bool × Option Json :=
  let sequenceNumber := stream.nextSequenceNumber
  let eventValue := eventValue.insert "sequence_number" (.int sequenceNumber)
  let terminal := isTerminalEventType (eventValue.getStr "type")
  let response := eventValue.get "response"
  let bytes := buildSseFrame codec eventName eventValue
  ({ events := stream.events ++ [⟨sequenceNumber, eventValue, bytes⟩]
     nextSequenceNumber := stream.nextSequenceNumber + 1
     terminal := stream.terminal || terminal },
    sequenceNumber, terminal, response)

end StoredResponseStream

/-! ## A record -/

namespace StoredResponseRecord

def status (record : StoredResponseRecord) : Option String :=
  record.response.getStr "status"

/-- The record is the one of the owner, and it is kept still. -/
def accessible (record : StoredResponseRecord) (ownerKey : String) (clock : Clock) :
    Bool :=
  record.ownerKey = ownerKey && clock.instant < record.expiresAt

def cancelledResponse (record : StoredResponseRecord) (clock : Clock) : Json :=
  setResponseTimestamp (setResponseStatus record.response "cancelled") "cancelled_at"
    clock.timestamp

def cancellationEvent (record : StoredResponseRecord) (clock : Clock) : Json :=
  .ofFields [("type", .str "response.cancelled"),
    ("response", record.cancelledResponse clock)]

def cancel (codec : SerdeJson) (record : StoredResponseRecord) (clock : Clock) :
    StoredResponseRecord :=
  if isTerminalResponseStatus record.status then { record with cancelled := true }
  else
    { record with
      cancelled := true
      response := record.cancelledResponse clock
      streamState := record.streamState.map fun streamState =>
        (streamState.appendFrame codec (some "response.cancelled")
          (record.cancellationEvent clock)).1 }

def markInProgress (record : StoredResponseRecord) (clock : Clock) :
    StoredResponseRecord :=
  { record with
    response := setResponseTimestamp (setResponseStatus record.response "in_progress")
      "started_at" clock.timestamp }

/-- A response with the flag and the conversation of the record. -/
def annotate (responseValue : Json) (background : Bool) (conversationId : Option String) :
    Json :=
  let responseValue := responseValue.insert "background" (.bool background)
  match conversationId with
  | some id => responseValue.insertNew "conversation" (.str id)
  | none => responseValue

def withResult (record : StoredResponseRecord) (responseValue : Json)
    (conversationId : Option String) : StoredResponseRecord :=
  { record with
    response := annotate responseValue true conversationId
    requestBody := none }

def withSnapshot (record : StoredResponseRecord) (responseValue : Json)
    (conversationId : Option String) (terminal : Bool) : StoredResponseRecord :=
  { record with
    response := annotate responseValue record.background conversationId
    requestBody := if terminal then none else record.requestBody }

def withFailure (codec : SerdeJson) (record : StoredResponseRecord) (responseId : String)
    (requestBody : Json) (statusCode : Nat) (responseBody : Option Bytes)
    (conversationId : Option String) (clock : Clock) : StoredResponseRecord :=
  let error := ((responseBody.bind codec.fromSlice).bind (·.get "error")).getD
    (.ofFields [("code", .str "background_request_failed"),
      ("message", .str "background request failed")])
  { record with
    response := buildFailedBackgroundResponse requestBody responseId statusCode error
      conversationId clock.timestamp
    requestBody := none }

def completed (ownerKey : String) (requestBody : Json) (responseId : String)
    (responseValue : Json) (forceStore : Bool) (expiresAt : Nat) : StoredResponseRecord where
  ownerKey := ownerKey
  response := responseValue
  allowRetrieve := !requestExplicitlyDisablesStore requestBody || forceStore
  inputItems := deriveInputItems requestBody responseId
  requestBody := none
  cancelled := false
  background := false
  streamState := none
  expiresAt := expiresAt

@[simp] theorem ownerKey_completed (ownerKey : String) (requestBody : Json)
    (responseId : String) (responseValue : Json) (forceStore : Bool) (expiresAt : Nat) :
    (completed ownerKey requestBody responseId responseValue forceStore expiresAt).ownerKey =
      ownerKey := rfl

end StoredResponseRecord

/-! ## The records -/

inductive CancelResponseOutcome where
  | notFound
  | notCancellable
  | response (value : Json)

namespace BackgroundResponsesRuntime

/-- Nothing is stored yet. -/
def new (retention : Nat) : BackgroundResponsesRuntime where
  entries := fun _ => none
  conversations := fun _ => none
  continuationCursors := fun _ => none
  retention := retention

/-- Drops what has expired. -/
def cleanupExpired (rt : BackgroundResponsesRuntime) (clock : Clock) :
    BackgroundResponsesRuntime where
  entries := fun k => (rt.entries k).filter fun record => clock.instant < record.expiresAt
  conversations := fun k =>
    (rt.conversations k).filter fun cursor => clock.instant < cursor.expiresAt
  continuationCursors := fun k =>
    (rt.continuationCursors k).filter fun cursor => clock.instant < cursor.expiresAt
  retention := rt.retention

/-- Puts a record in the place of the one that is stored. -/
def store (rt : BackgroundResponsesRuntime) (responseId : String)
    (record : StoredResponseRecord) : BackgroundResponsesRuntime :=
  { rt with entries := Function.update rt.entries responseId (some record) }

def storeConversation (rt : BackgroundResponsesRuntime) (conversationId : Option String)
    (record : StoredResponseRecord) : BackgroundResponsesRuntime :=
  match conversationId, record.response.getStr "id" with
  | some conversationId, some finalResponseId =>
    { rt with
      conversations := Function.update rt.conversations conversationId
        (some ⟨record.ownerKey, finalResponseId, record.expiresAt⟩) }
  | _, _ => rt

@[simp] theorem entries_store (rt : BackgroundResponsesRuntime) (responseId : String)
    (record : StoredResponseRecord) :
    (rt.store responseId record).entries responseId = some record :=
  Function.update_self _ _ _

theorem entries_store_of_ne (rt : BackgroundResponsesRuntime) {id responseId : String}
    (h : id ≠ responseId) (record : StoredResponseRecord) :
    (rt.store responseId record).entries id = rt.entries id :=
  Function.update_of_ne h _ _

@[simp] theorem entries_storeConversation (rt : BackgroundResponsesRuntime)
    (conversationId : Option String) (record : StoredResponseRecord) :
    (rt.storeConversation conversationId record).entries = rt.entries := by
  unfold storeConversation
  split <;> rfl

def lookupResponse (rt : BackgroundResponsesRuntime) (ownerKey responseId : String)
    (clock : Clock) : Option Json :=
  match rt.entries responseId with
  | none => none
  | some record =>
    if !record.accessible ownerKey clock || !record.allowRetrieve then none
    else some record.response

structure ResponseInputItemsQuery where
  limit : Option Nat
  order : Option String
  after : Option String

def inputItemsPage (inputItems : List Json) (query : ResponseInputItemsQuery) : Json :=
  let items := if query.order.getD "desc" = "asc" then inputItems else inputItems.reverse
  let items := match query.after with
    | none => items
    | some after =>
      match items.findIdx? fun item : Json => item.getStr "id" = some after with
      | some position => items.drop (position + 1)
      | none => items
  let limit := max 1 (min (query.limit.getD 20) 100)
  let page := items.take limit
  let idOf (item : Option Json) := (item.bind (·.get "id")).getD .null
  .ofFields [("object", .str "list"), ("data", .arr page), ("first_id", idOf page.head?),
    ("last_id", idOf page.getLast?), ("has_more", .bool (limit < items.length))]

def lookupInputItems (rt : BackgroundResponsesRuntime) (ownerKey responseId : String)
    (query : ResponseInputItemsQuery) (clock : Clock) : Option Json :=
  match rt.entries responseId with
  | none => none
  | some record =>
    if !record.accessible ownerKey clock || !record.allowRetrieve then none
    else some (inputItemsPage record.inputItems query)

def cursorResponseId (cursor : Option ConversationCursor) (ownerKey : String)
    (clock : Clock) : Option String :=
  match cursor with
  | none => none
  | some cursor =>
    if cursor.ownerKey ≠ ownerKey ∨ cursor.expiresAt ≤ clock.instant then none
    else some cursor.responseId

def currentConversationResponseId (rt : BackgroundResponsesRuntime)
    (ownerKey conversationId : String) (clock : Clock) : Option String :=
  cursorResponseId (rt.conversations conversationId) ownerKey clock

def currentContinuationCursorResponseId (rt : BackgroundResponsesRuntime)
    (ownerKey continuationCursorKey : String) (clock : Clock) : Option String :=
  cursorResponseId (rt.continuationCursors continuationCursorKey) ownerKey clock

def storeContinuationCursor (rt : BackgroundResponsesRuntime)
    (ownerKey continuationCursorKey responseId : String) (clock : Clock) :
    BackgroundResponsesRuntime :=
  { rt with
    continuationCursors := Function.update rt.continuationCursors continuationCursorKey
      (some ⟨ownerKey, responseId, clock.instant + rt.retention⟩) }

/-- The identifier and the value under which a completed response is stored, `none`
when it is not. -/
def completedResponse (codec : SerdeJson) (requestBody : Json) (responseBody : Bytes)
    (conversationId : Option String) (forceStore : Bool) : Option (String × Json) :=
  (codec.fromSlice responseBody).bind fun responseValue =>
    (responseValue.getStr "id").bind fun responseId =>
      if !forceStore && requestExplicitlyDisablesStore requestBody then none
      else
        let responseValue := match conversationId with
          | some conversationId => responseValue.insertNew "conversation" (.str conversationId)
          | none => responseValue
        some (responseId, responseValue)

def storeCompletedResponse (codec : SerdeJson) (rt : BackgroundResponsesRuntime)
    (ownerKey : String) (requestBody : Json) (responseBody : Bytes)
    (conversationId : Option String) (forceStore : Bool) (clock : Clock) :
    BackgroundResponsesRuntime :=
  match completedResponse codec requestBody responseBody conversationId forceStore with
  | none => rt
  | some (responseId, responseValue) =>
    let expiresAt := clock.instant + rt.retention
    let rt := rt.store responseId
      (.completed ownerKey requestBody responseId responseValue forceStore expiresAt)
    match conversationId with
    | none => rt
    | some conversationId =>
      { rt with
        conversations := Function.update rt.conversations conversationId
          (some ⟨ownerKey, responseId, expiresAt⟩) }

variable {codec : SerdeJson} {requestBody : Json} {responseBody : Bytes}
  {conversationId : Option String} {forceStore : Bool}

theorem completedResponse_id {stored : String × Json}
    (h : completedResponse codec requestBody responseBody conversationId forceStore =
      some stored) : stored.2.getStr "id" = some stored.1 := by
  simp only [completedResponse, Option.bind_eq_some_iff, Option.ite_none_left_eq_some,
    Option.some.injEq] at h
  obtain ⟨responseValue, -, responseId, hid, -, rfl⟩ := h
  cases conversationId with
  | none => exact hid
  | some c =>
      rw [← hid]
      simp [Json.getStr, Json.get_insertNew_of_ne]

theorem storeCompletedResponse_of_some {stored : String × Json}
    (h : completedResponse codec requestBody responseBody conversationId forceStore =
      some stored) (rt : BackgroundResponsesRuntime) (ownerKey : String) (clock : Clock) :
    rt.storeCompletedResponse codec ownerKey requestBody responseBody conversationId
        forceStore clock =
      (rt.store stored.1 (.completed ownerKey requestBody stored.1 stored.2 forceStore
        (clock.instant + rt.retention))).storeConversation conversationId
          (.completed ownerKey requestBody stored.1 stored.2 forceStore
            (clock.instant + rt.retention)) := by
  have hid := completedResponse_id h
  unfold storeCompletedResponse
  rw [h]
  cases conversationId with
  | none => rfl
  | some c => simp [storeConversation, StoredResponseRecord.completed, hid]

theorem storeCompletedResponse_of_none
    (h : completedResponse codec requestBody responseBody conversationId forceStore = none)
    (rt : BackgroundResponsesRuntime) (ownerKey : String) (clock : Clock) :
    rt.storeCompletedResponse codec ownerKey requestBody responseBody conversationId
      forceStore clock = rt := by
  unfold storeCompletedResponse
  rw [h]

inductive StreamLookupOutcome where
  | notFound
  | notStreamable
  | response

/-- The lookup of `stream_response`, before its reader is started. -/
def streamResponse (rt : BackgroundResponsesRuntime) (ownerKey responseId : String)
    (clock : Clock) : StreamLookupOutcome :=
  match rt.entries responseId with
  | none => .notFound
  | some record =>
    if !record.accessible ownerKey clock then .notFound
    else if record.streamState.isNone then .notStreamable
    else .response

/-- One read of the reader of `stream_response`: the events that it has not sent yet and
whether the log has ended, `none` when it stops. -/
def readStream (rt : BackgroundResponsesRuntime) (ownerKey responseId : String)
    (nextSequence : Nat) (clock : Clock) : Option (List StoredStreamEvent × Bool) :=
  match rt.entries responseId with
  | none => none
  | some record =>
    if !record.accessible ownerKey clock then none
    else record.streamState.map fun streamState =>
      (streamState.events.filter fun event => nextSequence ≤ event.sequenceNumber,
        streamState.terminal)

def cancelResponse (codec : SerdeJson) (rt : BackgroundResponsesRuntime)
    (ownerKey responseId : String) (clock : Clock) :
    CancelResponseOutcome × BackgroundResponsesRuntime :=
  match rt.entries responseId with
  | none => (.notFound, rt)
  | some record =>
    if !record.accessible ownerKey clock then (.notFound, rt)
    else if !record.background then (.notCancellable, rt)
    else
      let record := record.cancel codec clock
      (.response record.response, rt.store responseId record)

def queueBackgroundResponse (rt : BackgroundResponsesRuntime) (responseId : String)
    (ownerKey : String) (requestBody : Json) (conversationId : Option String)
    (clock : Clock) : BackgroundResponsesRuntime :=
  rt.store responseId
    { ownerKey
      response := buildResponseStub requestBody responseId "queued" true clock.timestamp
        conversationId clock.timestamp
      allowRetrieve := true
      inputItems := deriveInputItems requestBody responseId
      requestBody := some requestBody
      cancelled := false
      background := true
      streamState :=
        if ((requestBody.get "stream").bind Json.asBool).getD false then
          some StoredResponseStream.new
        else none
      expiresAt := clock.instant + rt.retention }

def markBackgroundInProgress (rt : BackgroundResponsesRuntime) (responseId : String)
    (clock : Clock) : Bool × BackgroundResponsesRuntime :=
  match rt.entries responseId with
  | none => (false, rt)
  | some record =>
    if record.cancelled then (false, rt)
    else (true, rt.store responseId (record.markInProgress clock))

def applyBackgroundResult (rt : BackgroundResponsesRuntime) (responseId : String)
    (responseValue : Json) (conversationId : Option String) :
    BackgroundResponsesRuntime :=
  match rt.entries responseId with
  | none => rt
  | some record =>
    if record.cancelled then rt
    else
      let record := record.withResult (rewriteResponseIds responseValue responseId)
        conversationId
      (rt.store responseId record).storeConversation conversationId record

def applyBackgroundResponseSnapshot (rt : BackgroundResponsesRuntime)
    (responseId : String) (responseValue : Json) (conversationId : Option String)
    (terminal : Bool) : BackgroundResponsesRuntime :=
  match rt.entries responseId with
  | none => rt
  | some record =>
    if record.cancelled then rt
    else
      let record := record.withSnapshot responseValue conversationId terminal
      let rt := rt.store responseId record
      if terminal then rt.storeConversation conversationId record else rt

def applyBackgroundFailure (codec : SerdeJson) (rt : BackgroundResponsesRuntime)
    (responseId : String) (requestBody : Json) (statusCode : Nat)
    (responseBody : Option Bytes) (conversationId : Option String) (clock : Clock) :
    BackgroundResponsesRuntime :=
  match rt.entries responseId with
  | none => rt
  | some record =>
    if record.cancelled then rt
    else
      rt.store responseId (record.withFailure codec responseId requestBody statusCode
        responseBody conversationId clock)

/-- The first part of `append_background_stream_frame`, up to the release of the
lock. It gives whether the event ends the stream and the response that is to be
stored. -/
def appendBackgroundStreamFrame (codec : SerdeJson) (rt : BackgroundResponsesRuntime)
    (ownerKey responseId : String) (frame : Bytes) (clock : Clock) :
    Option (Bool × Json) × BackgroundResponsesRuntime :=
  match frameEvent codec responseId frame with
  | none => (none, rt)
  | some (eventName, eventValue) =>
    match rt.entries responseId with
    | none => (none, rt)
    | some record =>
      if !record.accessible ownerKey clock then (none, rt)
      else
        match record.streamState with
        | none => (none, rt)
        | some streamState =>
          let (streamState, _, terminal, response) :=
            streamState.appendFrame codec eventName eventValue
          (response.map fun response => (terminal, response),
            rt.store responseId { record with streamState := some streamState })

end BackgroundResponsesRuntime

end CodexPool
