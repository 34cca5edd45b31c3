import CodexPool.Lib.Text
import CodexPool.Responses.Store

/-!
# Messages

A response of the upstream as a message of the other interface: its texts and its
function calls become content blocks, and the reason for the stop is read off them.
The objects of a message are kept as data. The identifiers that the source draws at
random are parameters.
-/

namespace CodexPool

/-- The identifiers that are generated where the upstream has given none: one for the
message, and one for each item of its output. -/
structure GeneratedIds where
  message : String
  tool : Nat → String

inductive AnthropicContentBlock where
  | text (text : String)
  | toolUse (id name : String) (input : Json)

def AnthropicContentBlock.isToolUse : AnthropicContentBlock → Bool
  | .toolUse .. => true
  | .text _ => false

inductive AnthropicStopReason where
  | toolUse
  | maxTokens
  | endTurn
deriving DecidableEq

structure AnthropicUsage where
  inputTokens : Int
  outputTokens : Int
deriving DecidableEq

structure AnthropicMessage where
  id : String
  model : String
  content : List AnthropicContentBlock
  stopReason : AnthropicStopReason
  usage : AnthropicUsage

section Translate

variable (codec : SerdeJson) (ids : GeneratedIds)

def parseResponseFunctionArguments : Json → Json
  | .str raw => (codec.fromStr raw).getD (.str raw)
  | other => other

def messageTexts (item : Json) : List String :=
  match (item.get "content").bind Json.asArray with
  | some blocks => blocks.filterMap fun block => block.getStr "text"
  | none => []

/-- The identifier of a function call, of the upstream. -/
def functionCallId (item : Json) : Option String :=
  ((item.get "call_id").or (item.get "id")).bind Json.asStr

/-- The blocks of the item at a place of the output. -/
def anthropicContentFromItem (index : Nat) (item : Json) : List AnthropicContentBlock :=
  if item.getStr "type" = some "message" then (messageTexts item).map .text
  else if item.getStr "type" = some "function_call" then
    [.toolUse ((functionCallId item).getD (ids.tool index)) ((item.getStr "name").getD "")
      (((item.get "arguments").map (parseResponseFunctionArguments codec)).getD (.obj []))]
  else []

def anthropicContentFromResponsesOutput (responseValue : Json) :
    List AnthropicContentBlock :=
  let content := match (responseValue.get "output").bind Json.asArray with
    | some output => (output.mapIdx (anthropicContentFromItem codec ids)).flatten
    | none => []
  if content.isEmpty then
    match responseValue.getStr "output_text" with
    | some text => [.text text]
    | none => []
  else content

def anthropicStopReason (responseValue : Json) : AnthropicStopReason :=
  if (anthropicContentFromResponsesOutput codec ids responseValue).any
      AnthropicContentBlock.isToolUse then .toolUse
  else if Text.contains
      (((responseValue.get "incomplete_details").bind (·.getStr "reason")).getD "") "max" then
    .maxTokens
  else .endTurn

def anthropicUsageValue (responseValue : Json) : AnthropicUsage :=
  let tokens (k : String) :=
    (((responseValue.get "usage").bind (·.get k)).bind Json.asI64).getD 0
  ⟨tokens "input_tokens", tokens "output_tokens"⟩

def translateResponsesJsonToAnthropicMessage (responseValue : Json)
    (requestedModel : String) : AnthropicMessage where
  id := (responseValue.getStr "id").getD ids.message
  model := requestedModel
  content := anthropicContentFromResponsesOutput codec ids responseValue
  stopReason := anthropicStopReason codec ids responseValue
  usage := anthropicUsageValue responseValue

end Translate

end CodexPool
