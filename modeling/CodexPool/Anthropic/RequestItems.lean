import CodexPool.Anthropic.Message

/-!
# The items of a request

The messages of a request become items for the upstream. The blocks of a message are collected to
one item up to a block of a tool, which is an item of its own. The result of a tool is handed on as
it is where it is no list of blocks.
-/

namespace CodexPool

inductive AnthropicInputItem where
  | messageContent (content : Json)
  | standalone (item : Json)
  | dropped

/-- The first of the fields that is a text, when it is not blank. -/
def anthropicToolReferenceText (block : Json) : String :=
  match Text.trimmed? (((block.getStr "tool_name").or (block.getStr "tool_use_id")).or
    (block.getStr "id")) with
  | some value => "Tool reference: " ++ value
  | none => "Tool reference"

def translateTextBlockForRole (role text : String) : Json :=
  if Text.toAsciiLowercase role = "assistant" then
    .ofFields [("type", .str "output_text"), ("text", .str text)]
  else .ofFields [("type", .str "input_text"), ("text", .str text)]

def messageInputItem (role : String) (content : List Json) : Json :=
  .ofFields [("role", .str role), ("content", .arr content)]

def translateAnthropicToolResultBlockToText (block : Json) : Option String :=
  let notBlank (text : String) : Bool := !(Text.trim text).isEmpty
  match block with
  | .str text => if notBlank text then some text else none
  | .obj _ =>
    if block.getStr "type" = some "text" then (block.getStr "text").filter notBlank
    else if block.getStr "type" = some "tool_reference" then
      some (anthropicToolReferenceText block)
    else none
  | _ => none

/-- Content that is no list is handed on as it is. -/
def translateAnthropicToolResultOutput (content : Option Json) : Json :=
  match content with
  | some (.arr blocks) =>
    let parts := blocks.filterMap translateAnthropicToolResultBlockToText
    if parts.isEmpty then .str "Tool result omitted."
    else .str (String.intercalate "\n\n" parts)
  | some other => other
  | none => .str ""

/-- The identifier of a tool use. -/
def toolUseId (block : Json) : String :=
  (((block.get "id").or (block.get "tool_use_id")).bind Json.asStr).getD ""

/-- The identifier of the tool use that a result belongs to. -/
def toolResultId (block : Json) : String := (block.getStr "tool_use_id").getD ""

section Translate

variable (codec : SerdeJson) (role : String)

def translateAssistantToolUseBlock (block : Json) : Json :=
  .ofFields [("type", .str "function_call"), ("call_id", .str (toolUseId block)),
    ("name", .str ((block.getStr "name").getD "")),
    ("arguments", .str (codec.toText ((block.get "input").getD (.obj []))))]

def translateToolResultBlock (block : Json) : Json :=
  .ofFields [("type", .str "function_call_output"), ("call_id", .str (toolResultId block)),
    ("output", translateAnthropicToolResultOutput (block.get "content"))]

def translateAnthropicImageBlock (block : Json) : Json :=
  match block.get "source" with
  | some (.obj fields) =>
    let source := Json.obj fields
    if source.getStr "type" = some "base64" then
      .ofFields [("type", .str "input_image"), ("image_url", .str ("data:" ++
        (source.getStr "media_type").getD "application/octet-stream" ++ ";base64," ++
        (source.getStr "data").getD ""))]
    else if source.getStr "type" = some "url" then
      .ofFields [("type", .str "input_image"), ("image_url", .str ((source.getStr "url").getD ""))]
    else translateTextBlockForRole role (codec.toText block)
  | _ => translateTextBlockForRole role (codec.toText block)

def translateAnthropicContentBlock (block : Json) : AnthropicInputItem :=
  match block.getStr "type" with
  | none => .messageContent (translateTextBlockForRole role (codec.toText block))
  | some blockType =>
    if blockType = "text" then
      .messageContent (translateTextBlockForRole role ((block.getStr "text").getD ""))
    else if blockType = "thinking" ∨ blockType = "redacted_thinking" then .dropped
    else if blockType = "tool_result" then .standalone (translateToolResultBlock block)
    else if blockType = "tool_use" then .standalone (translateAssistantToolUseBlock codec block)
    else if blockType = "tool_reference" then
      .messageContent (translateTextBlockForRole role (anthropicToolReferenceText block))
    else if blockType = "image" then
      .messageContent (translateAnthropicImageBlock codec role block)
    else .messageContent (translateTextBlockForRole role (codec.toText block))

def flushPendingMessageItem (pending items : List Json) : List Json :=
  if pending.isEmpty then items else items ++ [messageInputItem role pending]

/-- The loop over the blocks of a message. -/
def translateBlocks (pending items : List Json) : List Json → List Json
  | [] => flushPendingMessageItem role pending items
  | block :: blocks =>
    match translateAnthropicContentBlock codec role block with
    | .messageContent content => translateBlocks (pending ++ [content]) items blocks
    | .standalone item =>
      translateBlocks [] (flushPendingMessageItem role pending items ++ [item]) blocks
    | .dropped => translateBlocks pending items blocks

def translateAnthropicMessageItems (content : Option Json) : List Json :=
  match content with
  | some (.str text) => [messageInputItem role [translateTextBlockForRole role text]]
  | some (.arr blocks) => translateBlocks codec role [] [] blocks
  | some .null => []
  | none => []
  | some other =>
    [messageInputItem role [translateTextBlockForRole role (codec.toText other)]]

def translateAnthropicMessages : List Json → Except String (List Json)
  | [] => .ok []
  | message :: messages =>
    match Text.trimmed? (message.getStr "role") with
    | none => .error "each message must include a role"
    | some role =>
      (translateAnthropicMessages messages).map
        (translateAnthropicMessageItems codec role (message.get "content") ++ ·)

end Translate

/-! ## Tools of the messages and of the items -/

inductive ToolItem where
  | call (id : String)
  | output (id : String)
deriving DecidableEq

def contentBlocks (message : Json) : List Json :=
  ((message.get "content").bind Json.asArray).getD []

def toolOfBlock (block : Json) : Option ToolItem :=
  if block.getStr "type" = some "tool_use" then some (.call (toolUseId block))
  else if block.getStr "type" = some "tool_result" then some (.output (toolResultId block))
  else none

def toolOfItem (item : Json) : Option ToolItem :=
  if item.getStr "type" = some "function_call" then (item.getStr "call_id").map .call
  else if item.getStr "type" = some "function_call_output" then
    (item.getStr "call_id").map .output
  else none

def ItemTextual (item : Json) : Prop :=
  (item.getStr "type" = some "function_call" → (item.getStr "arguments").isSome) ∧
    (item.getStr "type" = some "function_call_output" → (item.getStr "output").isSome)

/-- The items have the tools of the messages in the same order, and texts in them. -/
def ToolsPaired (messages input : List Json) : Prop :=
  input.filterMap toolOfItem = (messages.flatMap contentBlocks).filterMap toolOfBlock ∧
    ∀ item ∈ input, ItemTextual item

/-- The content of a tool result is a text or a list of blocks, or it is missing. -/
def ResultTextual (block : Json) : Prop :=
  block.getStr "type" = some "tool_result" →
    match block.get "content" with
    | none => True
    | some (.str _) => True
    | some (.arr _) => True
    | some _ => False

/-! ## Items of a message -/

section Items

variable {codec : SerdeJson} {role : String}

theorem type_messageInputItem (content : List Json) :
    (messageInputItem role content).getStr "type" = none := by
  rw [Json.getStr, messageInputItem, Json.get_ofFields]
  rfl

theorem type_call (block : Json) :
    (translateAssistantToolUseBlock codec block).getStr "type" = some "function_call" := by
  rw [Json.getStr, translateAssistantToolUseBlock, Json.get_ofFields]
  rfl

theorem type_result (block : Json) :
    (translateToolResultBlock block).getStr "type" = some "function_call_output" := by
  rw [Json.getStr, translateToolResultBlock, Json.get_ofFields]
  rfl

theorem toolOfItem_messageInputItem (content : List Json) :
    toolOfItem (messageInputItem role content) = none := by
  rw [toolOfItem, type_messageInputItem]
  rfl

theorem itemTextual_messageInputItem (content : List Json) :
    ItemTextual (messageInputItem role content) := by
  rw [ItemTextual, type_messageInputItem]
  exact ⟨fun h => absurd h (by decide), fun h => absurd h (by decide)⟩

theorem toolOfItem_call (block : Json) :
    toolOfItem (translateAssistantToolUseBlock codec block) = some (.call (toolUseId block)) := by
  rw [toolOfItem, type_call, if_pos rfl, Json.getStr, translateAssistantToolUseBlock,
    Json.get_ofFields]
  rfl

theorem toolOfItem_result (block : Json) :
    toolOfItem (translateToolResultBlock block) = some (.output (toolResultId block)) := by
  rw [toolOfItem, type_result, if_neg (by decide), if_pos rfl, Json.getStr,
    translateToolResultBlock, Json.get_ofFields]
  rfl

theorem itemTextual_call (block : Json) :
    ItemTextual (translateAssistantToolUseBlock codec block) := by
  rw [ItemTextual, type_call]
  constructor
  · intro _
    rw [Json.getStr, translateAssistantToolUseBlock, Json.get_ofFields]
    rfl
  · exact fun h => absurd h (by decide)

/-- The output of a call is a text if the content of the result is a text, a list or missing. -/
theorem itemTextual_result {block : Json} (htype : block.getStr "type" = some "tool_result") :
    ItemTextual (translateToolResultBlock block) ↔ ResultTextual block := by
  have houtput : (translateToolResultBlock block).getStr "output" =
      (translateAnthropicToolResultOutput (block.get "content")).asStr := by
    rw [Json.getStr, translateToolResultBlock, Json.get_ofFields]
    rfl
  rw [ItemTextual, ResultTextual, houtput, type_result]
  have hcall : (some "function_call_output" = some "function_call") = False :=
    eq_false (by decide)
  rw [hcall]
  simp only [htype, false_imp_iff, true_and, forall_const]
  unfold translateAnthropicToolResultOutput
  cases block.get "content" with
  | none => exact iff_of_true rfl trivial
  | some content =>
      cases content with
      | arr blocks =>
          dsimp only
          split_ifs <;> exact iff_of_true rfl trivial
      | str text => exact iff_of_true rfl trivial
      | _ => exact iff_of_false (by simp [Json.asStr]) id

variable (codec role) in
/-- A block of a tool is an item of its own, and no other block is. -/
theorem translateAnthropicContentBlock_cases (block : Json) :
    (block.getStr "type" = some "tool_use" ∧ translateAnthropicContentBlock codec role block =
      .standalone (translateAssistantToolUseBlock codec block)) ∨
    (block.getStr "type" = some "tool_result" ∧ translateAnthropicContentBlock codec role block =
      .standalone (translateToolResultBlock block)) ∨
    block.getStr "type" ≠ some "tool_use" ∧ block.getStr "type" ≠ some "tool_result" ∧
      ((∃ content, translateAnthropicContentBlock codec role block = .messageContent content) ∨
        translateAnthropicContentBlock codec role block = .dropped) := by
  unfold translateAnthropicContentBlock
  cases htype : block.getStr "type" with
  | none => exact .inr (.inr ⟨nofun, nofun, .inl ⟨_, rfl⟩⟩)
  | some blockType =>
      by_cases huse : blockType = "tool_use"
      · rw [huse]
        exact .inl ⟨rfl, rfl⟩
      · by_cases hresult : blockType = "tool_result"
        · rw [hresult]
          exact .inr (.inl ⟨rfl, rfl⟩)
        · refine .inr (.inr ⟨fun h => huse (Option.some.inj h),
            fun h => hresult (Option.some.inj h), ?_⟩)
          dsimp only
          rw [if_neg hresult, if_neg huse]
          split_ifs
          · exact .inl ⟨_, rfl⟩
          · exact .inr rfl
          · exact .inl ⟨_, rfl⟩
          · exact .inl ⟨_, rfl⟩
          · exact .inl ⟨_, rfl⟩

theorem filterMap_flushPendingMessageItem (pending items : List Json) :
    (flushPendingMessageItem role pending items).filterMap toolOfItem =
      items.filterMap toolOfItem := by
  unfold flushPendingMessageItem
  split_ifs
  · rfl
  · rw [List.filterMap_append, List.filterMap_cons_none (toolOfItem_messageInputItem pending),
      List.filterMap_nil, List.append_nil]

/-- The tools of a message's items are those of its blocks. -/
theorem filterMap_translateBlocks (pending items blocks : List Json) :
    (translateBlocks codec role pending items blocks).filterMap toolOfItem =
      items.filterMap toolOfItem ++ blocks.filterMap toolOfBlock := by
  induction blocks generalizing pending items with
  | nil =>
      rw [translateBlocks, filterMap_flushPendingMessageItem, List.filterMap_nil, List.append_nil]
  | cons block blocks ih =>
      rw [translateBlocks]
      rcases translateAnthropicContentBlock_cases codec role block with
        ⟨htype, hitem⟩ | ⟨htype, hitem⟩ | ⟨huse, hresult, hitem⟩
      · have htool : toolOfBlock block = some (.call (toolUseId block)) := by
          rw [toolOfBlock, if_pos htype]
        rw [hitem]
        dsimp only
        rw [ih, List.filterMap_append, filterMap_flushPendingMessageItem,
          List.filterMap_cons_some htool, List.filterMap_cons_some (toolOfItem_call block),
          List.filterMap_nil, List.append_assoc]
        rfl
      · have htool : toolOfBlock block = some (.output (toolResultId block)) := by
          rw [toolOfBlock, htype, if_neg (by decide), if_pos rfl]
        rw [hitem]
        dsimp only
        rw [ih, List.filterMap_append, filterMap_flushPendingMessageItem,
          List.filterMap_cons_some htool, List.filterMap_cons_some (toolOfItem_result block),
          List.filterMap_nil, List.append_assoc]
        rfl
      · have htool : toolOfBlock block = none := by
          rw [toolOfBlock, if_neg huse, if_neg hresult]
        rw [List.filterMap_cons_none htool]
        rcases hitem with ⟨content, hitem⟩ | hitem
        · rw [hitem]
          exact ih _ items
        · rw [hitem]
          exact ih pending items

theorem forall_flushPendingMessageItem (pending items : List Json) :
    (∀ item ∈ flushPendingMessageItem role pending items, ItemTextual item) ↔
      ∀ item ∈ items, ItemTextual item := by
  unfold flushPendingMessageItem
  split_ifs
  · rfl
  · rw [List.forall_mem_append, List.forall_mem_singleton]
    exact and_iff_left (itemTextual_messageInputItem pending)

/-- The items of a message have texts exactly if its tool results have. -/
theorem itemTextual_translateBlocks (pending items blocks : List Json) :
    (∀ item ∈ translateBlocks codec role pending items blocks, ItemTextual item) ↔
      (∀ item ∈ items, ItemTextual item) ∧ ∀ block ∈ blocks, ResultTextual block := by
  induction blocks generalizing pending items with
  | nil =>
      rw [translateBlocks, forall_flushPendingMessageItem]
      exact (and_iff_left fun _ h => absurd h List.not_mem_nil).symm
  | cons block blocks ih =>
      rw [translateBlocks, List.forall_mem_cons]
      rcases translateAnthropicContentBlock_cases codec role block with
        ⟨htype, hitem⟩ | ⟨htype, hitem⟩ | ⟨huse, hresult, hitem⟩
      · have hblock : ResultTextual block := fun h => absurd (htype.symm.trans h) (by decide)
        rw [hitem]
        dsimp only
        rw [ih, List.forall_mem_append, List.forall_mem_singleton,
          forall_flushPendingMessageItem, and_iff_left (itemTextual_call block),
          and_iff_right hblock]
      · rw [hitem]
        dsimp only
        rw [ih, List.forall_mem_append, List.forall_mem_singleton,
          forall_flushPendingMessageItem, itemTextual_result htype, and_assoc]
      · have hblock : ResultTextual block := fun h => absurd h hresult
        rw [and_iff_right hblock]
        rcases hitem with ⟨content, hitem⟩ | hitem
        · rw [hitem]
          exact ih _ items
        · rw [hitem]
          exact ih pending items

variable (codec role) in
/-- The tools of a message are kept, and texts where its tool results have them. -/
theorem toolsPaired_messageItems (message : Json) :
    (translateAnthropicMessageItems codec role (message.get "content")).filterMap toolOfItem =
        (contentBlocks message).filterMap toolOfBlock ∧
      ((∀ item ∈ translateAnthropicMessageItems codec role (message.get "content"),
        ItemTextual item) ↔ ∀ block ∈ contentBlocks message, ResultTextual block) := by
  have hone : ∀ content : List Json,
      [messageInputItem role content].filterMap toolOfItem = [] ∧
        ∀ item ∈ [messageInputItem role content], ItemTextual item := by
    intro content
    rw [List.filterMap_cons_none (toolOfItem_messageInputItem content),
      List.forall_mem_singleton]
    exact ⟨rfl, itemTextual_messageInputItem content⟩
  have hnil : ∀ {P : Json → Prop}, ∀ item ∈ ([] : List Json), P item :=
    fun _ h => absurd h List.not_mem_nil
  unfold translateAnthropicMessageItems contentBlocks
  cases message.get "content" with
  | none => exact ⟨rfl, iff_of_true hnil hnil⟩
  | some content =>
      cases content with
      | arr blocks =>
          refine ⟨filterMap_translateBlocks [] [] blocks, ?_⟩
          exact (itemTextual_translateBlocks [] [] blocks).trans
            (and_iff_right hnil)
      | null => exact ⟨rfl, iff_of_true hnil hnil⟩
      | _ => exact ⟨(hone _).1, iff_of_true (hone _).2 hnil⟩

end Items

section Messages

variable {codec : SerdeJson} {messages input : List Json}

theorem toolsOf_translateAnthropicMessages
    (h : translateAnthropicMessages codec messages = .ok input) :
    input.filterMap toolOfItem = (messages.flatMap contentBlocks).filterMap toolOfBlock ∧
      ((∀ item ∈ input, ItemTextual item) ↔
        ∀ message ∈ messages, ∀ block ∈ contentBlocks message, ResultTextual block) := by
  induction messages generalizing input with
  | nil =>
      rw [← Except.ok.inj h]
      exact ⟨rfl, iff_of_true (fun _ h => absurd h List.not_mem_nil)
        fun _ h => absurd h List.not_mem_nil⟩
  | cons message messages ih =>
      rw [translateAnthropicMessages] at h
      cases hrole : Text.trimmed? (message.getStr "role") with
      | none =>
          rw [hrole] at h
          cases h
      | some role =>
          rw [hrole] at h
          dsimp only at h
          cases hrest : translateAnthropicMessages codec messages with
          | error message =>
              rw [hrest] at h
              cases h
          | ok rest =>
              rw [hrest] at h
              rcases ih hrest with ⟨htools, htextual⟩
              rcases toolsPaired_messageItems codec role message with
                ⟨hfirst, hfirstTextual⟩
              rw [← Except.ok.inj h, List.filterMap_append, List.flatMap_cons,
                List.filterMap_append, htools, hfirst, List.forall_mem_append, hfirstTextual,
                htextual, List.forall_mem_cons]
              exact ⟨rfl, Iff.rfl⟩

/-- The tools of a request are kept exactly if the content of every tool result is a text, a list
of blocks or missing. -/
theorem toolsPaired_iff (h : translateAnthropicMessages codec messages = .ok input) :
    ToolsPaired messages input ↔
      ∀ message ∈ messages, ∀ block ∈ contentBlocks message, ResultTextual block := by
  rcases toolsOf_translateAnthropicMessages h with ⟨htools, htextual⟩
  exact (and_iff_right htools).trans htextual

end Messages

/-! A call of a tool and its result. -/

/-- The messages of a call and of a result with that content. -/
def toolTurn (content : Json) : List Json :=
  [.obj [("content", .arr [.obj [("id", .str "toolu_1"), ("name", .str "ls"),
      ("type", .str "tool_use")]]), ("role", .str "assistant")],
    .obj [("content", .arr [.obj [("content", content), ("tool_use_id", .str "toolu_1"),
      ("type", .str "tool_result")]]), ("role", .str "user")]]

def emptyObjectCodec : SerdeJson where
  fromSlice _ := none
  toText _ := "\x7b\x7d"

theorem toolsPaired_text_result : ∃ input,
    translateAnthropicMessages emptyObjectCodec (toolTurn (.str "src")) = .ok input ∧
      ToolsPaired (toolTurn (.str "src")) input := by
  refine ⟨_, rfl, (toolsPaired_iff rfl).2 ?_⟩
  intro message hmessage block hblock
  rcases List.mem_pair.1 hmessage with rfl | rfl
  · rw [List.mem_singleton.1 hblock]
    exact fun htype => absurd htype (by decide)
  · rw [List.mem_singleton.1 hblock]
    exact fun _ => trivial

/-- A result whose content is `null` has an output that is no text. -/
theorem null_result_not_paired : ∃ input,
    translateAnthropicMessages emptyObjectCodec (toolTurn .null) = .ok input ∧
      ¬ToolsPaired (toolTurn .null) input := by
  have hok : ∃ input, translateAnthropicMessages emptyObjectCodec (toolTurn .null) = .ok input :=
    ⟨_, rfl⟩
  rcases hok with ⟨input, hinput⟩
  refine ⟨input, hinput, ?_⟩
  rintro ⟨-, htextual⟩
  have hresults := (toolsOf_translateAnthropicMessages hinput).2.1 htextual
  exact hresults _ (List.mem_cons_of_mem _ List.mem_cons_self) _ List.mem_cons_self rfl

end CodexPool
