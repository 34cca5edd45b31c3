import CodexPool.Anthropic.SseTranslator

/-!
# Responses as they are announced

A completed response of the upstream and the events that announce it: each item of its
output is added, its texts or its arguments come in pieces, and the item is done. A
client puts the blocks of a translated stream together again: a start opens a block, and
a delta goes to the latest block of its index.
-/

namespace CodexPool

/-! ## Responses of the upstream -/

inductive MessagePart where
  | outputText (text : String)
  | refusal (refusal : String)
deriving DecidableEq

inductive OutputItem where
  | message (content : List MessagePart)
  | reasoning (id : String)
  | functionCall (callId name arguments : String)
deriving DecidableEq

def MessagePart.toJson : MessagePart → Json
  | .outputText text => .ofFields [("type", .str "output_text"), ("text", .str text)]
  | .refusal text => .ofFields [("type", .str "refusal"), ("refusal", .str text)]

def MessagePart.text? : MessagePart → Option String
  | .outputText text => some text
  | .refusal _ => none

namespace OutputItem

def toJson : OutputItem → Json
  | .message content =>
    .ofFields [("type", .str "message"), ("role", .str "assistant"),
      ("content", .arr (content.map MessagePart.toJson))]
  | .reasoning id =>
    .ofFields [("type", .str "reasoning"), ("id", .str id), ("summary", .arr [])]
  | .functionCall callId name arguments =>
    .ofFields [("type", .str "function_call"), ("call_id", .str callId),
      ("name", .str name), ("arguments", .str arguments)]

def texts : OutputItem → List String
  | .message content => content.filterMap MessagePart.text?
  | _ => []

def isCall : OutputItem → Bool
  | .functionCall .. => true
  | _ => false

end OutputItem

/-- A completed response: its output, which a vector holds, and all its other fields. -/
structure UpstreamResponse where
  fields : List (String × Json)
  output : List OutputItem
  output_length : output.length ≤ 2 ^ 64

def UpstreamResponse.toJson (response : UpstreamResponse) : Json :=
  (Json.obj response.fields).insert "output" (.arr (response.output.map OutputItem.toJson))

/-! ## Announcements -/

/-- How texts are cut into the deltas of a stream. -/
structure Splitting where
  split : String → List String
  join_split : ∀ s, String.join (split s) = s
  split_ne_nil : ∀ s, split s ≠ []

def upstreamEvent (type : String) (fields : List (String × Json)) : Json :=
  .ofFields (("type", .str type) :: fields)

/-- An event about the item at a place of the output. -/
def itemEvent (type : String) (index : Nat) (field : String) (value : Json) : Json :=
  upstreamEvent type [("output_index", .int index), (field, value)]

section Announce

variable (splitting : Splitting)

def announcePart (index : Nat) : MessagePart → List Json
  | .outputText text =>
    [itemEvent "response.content_part.added" index "part" (MessagePart.outputText "").toJson] ++
      (splitting.split text).map
        (fun delta => itemEvent "response.output_text.delta" index "delta" (.str delta)) ++
      [itemEvent "response.output_text.done" index "text" (.str text),
        itemEvent "response.content_part.done" index "part"
          (MessagePart.outputText text).toJson]
  | .refusal refusal =>
    [itemEvent "response.content_part.added" index "part" (MessagePart.refusal "").toJson,
      itemEvent "response.refusal.delta" index "delta" (.str refusal),
      itemEvent "response.content_part.done" index "part"
        (MessagePart.refusal refusal).toJson]

def announceItem (index : Nat) : OutputItem → List Json
  | .message content =>
    [itemEvent "response.output_item.added" index "item" (OutputItem.message []).toJson] ++
      content.flatMap (announcePart splitting index) ++
      [itemEvent "response.output_item.done" index "item" (OutputItem.message content).toJson]
  | .reasoning id =>
    [itemEvent "response.output_item.added" index "item" (OutputItem.reasoning id).toJson,
      itemEvent "response.output_item.done" index "item" (OutputItem.reasoning id).toJson]
  | .functionCall callId name arguments =>
    [itemEvent "response.output_item.added" index "item"
        (OutputItem.functionCall callId name "").toJson] ++
      (splitting.split arguments).map
        (fun delta =>
          itemEvent "response.function_call_arguments.delta" index "delta" (.str delta)) ++
      [itemEvent "response.function_call_arguments.done" index "arguments" (.str arguments),
        itemEvent "response.output_item.done" index "item"
          (OutputItem.functionCall callId name arguments).toJson]

/-- The items from a place of the output on. -/
def announceItems : (index : Nat) → List OutputItem → List Json
  | _, [] => []
  | index, item :: items =>
    announceItem splitting index item ++ announceItems (index + 1) items

/-- The events that announce a response, `created` being the response as it was first. -/
def announcement (created : Json) (response : UpstreamResponse) : List Json :=
  [upstreamEvent "response.created" [("response", created)],
    upstreamEvent "response.in_progress" [("response", created)]] ++
  announceItems splitting 0 response.output ++
  [upstreamEvent "response.completed" [("response", response.toJson)]]

end Announce

/-! ## Assembly -/

inductive AssembledBlock where
  | text (text : String)
  | toolUse (id name partialJson : String)
deriving DecidableEq

namespace AssembledBlock

def start : AnthropicBlockHead → AssembledBlock
  | .text => .text ""
  | .toolUse id name => .toolUse id name ""

def append : AssembledBlock → AnthropicDelta → AssembledBlock
  | .text content, .textDelta delta => .text (content ++ delta)
  | .toolUse id name partialJson, .inputJsonDelta delta =>
    .toolUse id name (partialJson ++ delta)
  | block, _ => block

/-- The block of the message; the input of a tool is read as the bridge reads arguments. -/
def toContent (codec : SerdeJson) : AssembledBlock → AnthropicContentBlock
  | .text content => .text content
  | .toolUse id name partialJson =>
    .toolUse id name (parseResponseFunctionArguments codec (.str partialJson))

end AssembledBlock

/-- Adds a delta to the first block of the list that has the index. -/
def appendDelta (index : Nat) (delta : AnthropicDelta) :
    List (Nat × AssembledBlock) → List (Nat × AssembledBlock)
  | [] => []
  | (i, block) :: blocks =>
    if i = index then (i, block.append delta) :: blocks
    else (i, block) :: appendDelta index delta blocks

/-- The blocks after an event, the latest first. -/
def assembleEvent (blocks : List (Nat × AssembledBlock)) :
    AnthropicEvent → List (Nat × AssembledBlock)
  | .contentBlockStart index contentBlock => (index, .start contentBlock) :: blocks
  | .contentBlockDelta index delta => appendDelta index delta blocks
  | _ => blocks

def assembledContent (codec : SerdeJson) (events : List AnthropicEvent) :
    List AnthropicContentBlock :=
  (events.foldl assembleEvent []).reverse.map fun block => block.2.toContent codec

def AnthropicEvent.stopReason? : AnthropicEvent → Option AnthropicStopReason
  | .messageDelta stopReason .. => some stopReason
  | _ => none

def assembledStopReason (events : List AnthropicEvent) : Option AnthropicStopReason :=
  (events.filterMap AnthropicEvent.stopReason?).getLast?

/-! ## The place of an event -/

theorem upstreamEvent_type {type : String} {fields : List (String × Json)}
    (h : ∀ f ∈ fields, f.1 ≠ "type") :
    (upstreamEvent type fields).getStr "type" = some type := by
  have happend : ("type", Json.str type) :: fields = [("type", Json.str type)] ++ fields := rfl
  rw [upstreamEvent, happend, Json.getStr_ofFields_append h]
  rfl

theorem itemEvent_outputIndex {index : Nat} (h : index < 2 ^ 64) (t : AnthropicSseTranslator)
    {type field : String} (hfield : field ≠ "output_index") (value : Json) :
    t.outputIndex (itemEvent type index field value) = index := by
  have hget : (itemEvent type index field value).get "output_index" = some (.int index) := by
    simp [itemEvent, upstreamEvent, Json.get_ofFields, Json.lookupField, hfield.symm]
  rw [AnthropicSseTranslator.outputIndex, hget, Option.bind_some, Json.asU64_int h,
    Option.getD_some]

theorem itemEvent_get (type field : String) (index : Nat) (value : Json) :
    (itemEvent type index field value).get field = some value := by
  simp [itemEvent, upstreamEvent, Json.get_ofFields, Json.lookupField]

theorem itemEvent_get_of_ne {type field k : String} (hk : k ≠ field) (htype : k ≠ "type")
    (hindex : k ≠ "output_index") (index : Nat) (value : Json) :
    (itemEvent type index field value).get k = none := by
  simp [itemEvent, upstreamEvent, Json.get_ofFields, Json.lookupField, hk, htype, hindex]

theorem itemEvent_type (type : String) {field : String} (h : field ≠ "type") (index : Nat)
    (value : Json) : (itemEvent type index field value).getStr "type" = some type := by
  refine upstreamEvent_type fun f hf => ?_
  simp only [List.mem_cons, List.not_mem_nil, or_false] at hf
  obtain rfl | rfl := hf
  · show "output_index" ≠ "type"
    decide
  · exact h

end CodexPool
