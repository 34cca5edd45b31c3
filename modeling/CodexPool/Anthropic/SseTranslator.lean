import CodexPool.Anthropic.Message

/-!
# The translator of event streams

`AnthropicSseTranslator` takes the payloads of the upstream's stream one by one and
gives the events of the other interface. The text of the response is one block with
index 0; a function call is a block whose index is its place in the output. When the
response is completed, the translator goes through its content once more and gives what
it has not given yet.
-/

namespace CodexPool

inductive AnthropicDelta where
  | textDelta (text : String)
  | inputJsonDelta (partialJson : String)
deriving DecidableEq

/-- The head of a block, as its start gives it. -/
inductive AnthropicBlockHead where
  | text
  | toolUse (id name : String)
deriving DecidableEq

inductive AnthropicEvent where
  | messageStart (id model : String) (inputTokens : Int)
  | contentBlockStart (index : Nat) (contentBlock : AnthropicBlockHead)
  | contentBlockDelta (index : Nat) (delta : AnthropicDelta)
  | contentBlockStop (index : Nat)
  | messageDelta (stopReason : AnthropicStopReason) (usage : AnthropicUsage)
      (contextManagement : Option Json)
  | messageStop
  | error (type message : String)

structure ToolUseStreamState where
  id : String
  name : String
  started : Bool
  deltaEmitted : Bool
  stopped : Bool
deriving DecidableEq

def ToolUseStreamState.default : ToolUseStreamState := ⟨"", "", false, false, false⟩

/-- The state of a block with what an item says of it. -/
def ToolUseStreamState.named (state : ToolUseStreamState) (item : Json) :
    ToolUseStreamState :=
  { state with
    id := if state.id = "" then (functionCallId item).getD "" else state.id
    name := if state.name = "" then (item.getStr "name").getD "" else state.name }

structure AnthropicSseTranslator where
  requestedModel : String
  responseId : Option String
  messageStarted : Bool
  textBlockStarted : Bool
  emittedContentBlocks : Nat
  toolUseBlocks : Nat → Option ToolUseStreamState
  terminalEventSeen : Bool
  contextManagement : Option Json

/-- The kind of an error, for an error without a status. -/
def anthropicErrorType (errorCode : Option String) : String :=
  let normalized := Text.toAsciiLowercase (Text.trim (errorCode.getD ""))
  let has (s : String) := Text.contains normalized s
  if has "rate_limit" || has "quota" || has "usage_limit" then "rate_limit_error"
  else if has "auth" || has "api_key" then "authentication_error"
  else if has "permission" || has "forbidden" then "permission_error"
  else if has "invalid" || has "unsupported" || has "bad_request" then
    "invalid_request_error"
  else "api_error"

def upstreamStreamErrorDetails (value : Json) : Option String × Option String :=
  let error := (value.get "error").or ((value.get "response").bind (·.get "error"))
  (error.bind (·.getStr "code"),
    (error.bind (·.getStr "message")).or (value.getStr "message"))

/-- The usize after `n`. -/
def nextUsize (n : Nat) : Nat := (n + 1) % 2 ^ 64

namespace AnthropicSseTranslator

def new (requestedModel : String) (contextManagement : Option Json) :
    AnthropicSseTranslator where
  requestedModel := requestedModel
  responseId := none
  messageStarted := false
  textBlockStarted := false
  emittedContentBlocks := 0
  toolUseBlocks := fun _ => none
  terminalEventSeen := false
  contextManagement := contextManagement

variable (codec : SerdeJson) (ids : GeneratedIds)

def setToolUseBlock (t : AnthropicSseTranslator) (index : Nat) (state : ToolUseStreamState) :
    AnthropicSseTranslator :=
  { t with toolUseBlocks := Function.update t.toolUseBlocks index (some state) }

def setResponseId (t : AnthropicSseTranslator) (response : Json) : AnthropicSseTranslator :=
  { t with responseId := (response.getStr "id").or t.responseId }

def ensureMessageStart (t : AnthropicSseTranslator) (response : Json) :
    AnthropicSseTranslator × List AnthropicEvent :=
  if t.messageStarted then (t, [])
  else
    ({ t with messageStarted := true },
      [.messageStart (t.responseId.getD ids.message) t.requestedModel
        (((response.get "usage").bind (·.get "input_tokens")).bind Json.asI64 |>.getD 0)])

def ensureToolUseBlockStarted (t : AnthropicSseTranslator) (index : Nat)
    (item response : Json) : AnthropicSseTranslator × List AnthropicEvent :=
  let (t, frames) := t.ensureMessageStart ids response
  let state := ((t.toolUseBlocks index).getD .default).named item
  if state.started || state.stopped then (t.setToolUseBlock index state, frames)
  else
    ({ t.setToolUseBlock index { state with started := true } with
        emittedContentBlocks := max t.emittedContentBlocks (nextUsize index) },
      frames ++ [.contentBlockStart index (.toolUse state.id state.name)])

/-- The arguments of a call, as one delta unless there was one before. -/
def emitFinalArguments (index : Nat) (state : ToolUseStreamState)
    (finalArguments : Option String) : ToolUseStreamState × List AnthropicEvent :=
  match state.deltaEmitted, finalArguments.filter (· ≠ "") with
  | false, some arguments =>
    ({ state with deltaEmitted := true },
      [.contentBlockDelta index (.inputJsonDelta arguments)])
  | _, _ => (state, [])

def closeToolUseBlock (t : AnthropicSseTranslator) (index : Nat)
    (finalArguments : Option String) (item : Option Json) (response : Json) :
    AnthropicSseTranslator × List AnthropicEvent :=
  let (t, frames) := t.ensureToolUseBlockStarted ids index (item.getD .null) response
  let state := (t.toolUseBlocks index).getD .default
  let (state, deltas) := emitFinalArguments index state finalArguments
  if state.stopped then (t.setToolUseBlock index state, frames ++ deltas)
  else
    (t.setToolUseBlock index { state with stopped := true },
      frames ++ deltas ++ [.contentBlockStop index])

def emitFullContentBlock (t : AnthropicSseTranslator) (index : Nat)
    (block : AnthropicContentBlock) : AnthropicSseTranslator × List AnthropicEvent :=
  ({ t with emittedContentBlocks := max t.emittedContentBlocks (nextUsize index) },
    match block with
    | .text text =>
      [.contentBlockStart index .text, .contentBlockDelta index (.textDelta text),
        .contentBlockStop index]
    | .toolUse id name input =>
      [.contentBlockStart index (.toolUse id name),
        .contentBlockDelta index (.inputJsonDelta (codec.toText input)),
        .contentBlockStop index])

def maybeEmitOrCloseContentBlock (t : AnthropicSseTranslator) (index : Nat)
    (block : AnthropicContentBlock) : AnthropicSseTranslator × List AnthropicEvent :=
  match block, t.toolUseBlocks index with
  | .toolUse id name input, some _ =>
    -- the block itself is passed on as the item, and it has an `id` and a `name`
    t.closeToolUseBlock ids index (some (codec.toText input))
      (some (.ofFields [("type", .str "tool_use"), ("id", .str id), ("name", .str name),
        ("input", input)])) .null
  | block, _ => t.emitFullContentBlock codec index block

/-- The loop over the content of the completed response. -/
def emitOrCloseContentBlocks (t : AnthropicSseTranslator) :
    List (AnthropicContentBlock × Nat) → AnthropicSseTranslator × List AnthropicEvent
  | [] => (t, [])
  | (block, index) :: blocks =>
    let (t, frames) := t.maybeEmitOrCloseContentBlock codec ids index block
    let (t, rest) := t.emitOrCloseContentBlocks blocks
    (t, frames ++ rest)

/-! ## Handlers -/

/-- The place in the output that an event names. -/
def outputIndex (t : AnthropicSseTranslator) (value : Json) : Nat :=
  ((value.get "output_index").bind Json.asU64).getD t.emittedContentBlocks

/-- The response of an event, or the event itself. -/
def responseOf (value : Json) : Json := (value.get "response").getD value

def handleResponseCreated (t : AnthropicSseTranslator) (value : Json) :
    AnthropicSseTranslator × List AnthropicEvent :=
  (t.setResponseId (responseOf value)).ensureMessageStart ids (responseOf value)

def handleOutputTextDelta (t : AnthropicSseTranslator) (value : Json) :
    AnthropicSseTranslator × List AnthropicEvent :=
  let (t, frames) := t.ensureMessageStart ids (responseOf value)
  let (t, starts) :=
    if t.textBlockStarted then (t, [])
    else
      ({ t with
          textBlockStarted := true
          emittedContentBlocks := max t.emittedContentBlocks 1 },
        [AnthropicEvent.contentBlockStart 0 .text])
  let deltas := match value.getStr "delta" with
    | some delta => [AnthropicEvent.contentBlockDelta 0 (.textDelta delta)]
    | none => []
  (t, frames ++ starts ++ deltas)

def functionCallItem (value : Json) : Option Json :=
  (value.get "item").filter fun item => item.getStr "type" = some "function_call"

def handleResponseOutputItemAdded (t : AnthropicSseTranslator) (value : Json) :
    AnthropicSseTranslator × List AnthropicEvent :=
  match functionCallItem value with
  | none => (t, [])
  | some item =>
    t.ensureToolUseBlockStarted ids (t.outputIndex value) item (responseOf value)

def handleFunctionCallArgumentsDelta (t : AnthropicSseTranslator) (value : Json) :
    AnthropicSseTranslator × List AnthropicEvent :=
  let index := t.outputIndex value
  let (t, frames) := t.ensureToolUseBlockStarted ids index ((value.get "item").getD .null)
    (responseOf value)
  match value.getStr "delta" with
  | none => (t, frames)
  | some delta =>
    (match t.toolUseBlocks index with
      | some state => t.setToolUseBlock index { state with deltaEmitted := true }
      | none => t,
      frames ++ [.contentBlockDelta index (.inputJsonDelta delta)])

def handleFunctionCallArgumentsDone (t : AnthropicSseTranslator) (value : Json) :
    AnthropicSseTranslator × List AnthropicEvent :=
  t.closeToolUseBlock ids (t.outputIndex value) (value.getStr "arguments")
    (value.get "item") (responseOf value)

def handleResponseOutputItemDone (t : AnthropicSseTranslator) (value : Json) :
    AnthropicSseTranslator × List AnthropicEvent :=
  match functionCallItem value with
  | none => (t, [])
  | some item =>
    t.closeToolUseBlock ids (t.outputIndex value) (item.getStr "arguments") (some item)
      (responseOf value)

def handleResponseFailed (t : AnthropicSseTranslator) (value : Json) :
    AnthropicSseTranslator × List AnthropicEvent :=
  let (errorCode, message) := upstreamStreamErrorDetails value
  ({ t with terminalEventSeen := true },
    [.error (anthropicErrorType errorCode) (message.getD "request failed")])

/-- The blocks of the completed response that are gone through again: all of them, or all
but the first when there is a text block. -/
def remainingBlocks (t : AnthropicSseTranslator) (content : List AnthropicContentBlock) :
    List (AnthropicContentBlock × Nat) :=
  if t.textBlockStarted then content.zipIdx.drop 1 else content.zipIdx

def handleResponseCompleted (t : AnthropicSseTranslator) (value : Json) :
    AnthropicSseTranslator × List AnthropicEvent :=
  let t := { t with terminalEventSeen := true }
  let response := responseOf value
  let t := t.setResponseId response
  let translated := translateResponsesJsonToAnthropicMessage codec ids response
    t.requestedModel
  let (t, frames) := t.ensureMessageStart ids response
  let stops := if t.textBlockStarted then [AnthropicEvent.contentBlockStop 0] else []
  let (t, blocks) := t.emitOrCloseContentBlocks codec ids (t.remainingBlocks translated.content)
  (t, frames ++ stops ++ blocks ++
    [.messageDelta translated.stopReason translated.usage t.contextManagement, .messageStop])

def translateValue (t : AnthropicSseTranslator) (value : Json) :
    AnthropicSseTranslator × List AnthropicEvent :=
  match (value.getStr "type").getD "" with
  | "response.created" => t.handleResponseCreated ids value
  | "response.output_text.delta" => t.handleOutputTextDelta ids value
  | "response.output_item.added" => t.handleResponseOutputItemAdded ids value
  | "response.function_call_arguments.delta" => t.handleFunctionCallArgumentsDelta ids value
  | "response.function_call_arguments.done" => t.handleFunctionCallArgumentsDone ids value
  | "response.output_item.done" => t.handleResponseOutputItemDone ids value
  | "response.failed" => t.handleResponseFailed value
  | "response.error" => t.handleResponseFailed value
  | "error" => t.handleResponseFailed value
  | "response.completed" => t.handleResponseCompleted codec ids value
  | _ => (t, [])

def translateFrame (t : AnthropicSseTranslator) (payload : Bytes) :
    AnthropicSseTranslator × List AnthropicEvent :=
  if t.terminalEventSeen then (t, [])
  else if payload = Bytes.ofAscii "[DONE]" then (t, [])
  else
    match codec.fromSlice payload with
    | none =>
      ({ t with terminalEventSeen := true },
        [.error (anthropicErrorType none) "upstream stream emitted invalid JSON"])
    | some value => t.translateValue codec ids value

def finishOnUpstreamEof (t : AnthropicSseTranslator) :
    AnthropicSseTranslator × List AnthropicEvent :=
  if t.terminalEventSeen then (t, [])
  else
    ({ t with terminalEventSeen := true },
      [.error (anthropicErrorType none)
        "upstream response stream ended before a terminal event"])

/-- The events for a sequence of payloads. -/
def translateFrames (t : AnthropicSseTranslator) :
    List Bytes → AnthropicSseTranslator × List AnthropicEvent
  | [] => (t, [])
  | payload :: payloads =>
    let (t, frames) := t.translateFrame codec ids payload
    let (t, rest) := t.translateFrames payloads
    (t, frames ++ rest)

/-- The whole stream, to the end of the upstream's. -/
def translateStream (t : AnthropicSseTranslator) (payloads : List Bytes) :
    List AnthropicEvent :=
  let (t, frames) := t.translateFrames codec ids payloads
  frames ++ t.finishOnUpstreamEof.2

/-! ## Payloads that are read -/

/-- The events for a sequence of values. -/
def translateValues (t : AnthropicSseTranslator) :
    List Json → AnthropicSseTranslator × List AnthropicEvent
  | [] => (t, [])
  | value :: values =>
    let (t, frames) := if t.terminalEventSeen then (t, []) else t.translateValue codec ids value
    let (t, rest) := t.translateValues values
    (t, frames ++ rest)

/-- The whole stream, for payloads that are read. -/
def translateEvents (t : AnthropicSseTranslator) (values : List Json) : List AnthropicEvent :=
  let (t, frames) := t.translateValues codec ids values
  frames ++ t.finishOnUpstreamEof.2

variable {codec ids}

theorem translateValues_append (t : AnthropicSseTranslator) (values values' : List Json) :
    t.translateValues codec ids (values ++ values') =
      (((t.translateValues codec ids values).1.translateValues codec ids values').1,
        (t.translateValues codec ids values).2 ++
          ((t.translateValues codec ids values).1.translateValues codec ids values').2) := by
  induction values generalizing t with
  | nil => rfl
  | cons value values ih => simp [translateValues, ih]

def Prints (codec : SerdeJson) (payloads : List Bytes) (values : List Json) : Prop :=
  List.Forall₂ (fun payload value => codec.fromSlice payload = some value ∧
    payload ≠ Bytes.ofAscii "[DONE]") payloads values

theorem translateFrames_of_prints (t : AnthropicSseTranslator) {payloads : List Bytes}
    {values : List Json} (h : Prints codec payloads values) :
    t.translateFrames codec ids payloads = t.translateValues codec ids values := by
  induction h generalizing t with
  | nil => rfl
  | cons hp _ ih =>
      simp only [translateFrames, translateValues, translateFrame, hp.1, hp.2, if_false, ih]

theorem translateStream_of_prints (t : AnthropicSseTranslator) {payloads : List Bytes}
    {values : List Json} (h : Prints codec payloads values) :
    t.translateStream codec ids payloads = t.translateEvents codec ids values := by
  rw [translateStream, translateFrames_of_prints t h]
  rfl

end AnthropicSseTranslator

end CodexPool
