import CodexPool.Anthropic.Announcement
import CodexPool.Anthropic.WellFormed

/-!
# What an announcement is translated to

The blocks that a client has put together while the items of a response are announced:
one block for each function call, in their order, and one block for all texts, which
stands where the first text came.
-/

namespace CodexPool

open AnthropicSseTranslator

/-! ## The translator and the client -/

section Feed

variable (codec : SerdeJson) (ids : GeneratedIds)

/-- A payload is translated, and the client takes the events. -/
def feed (state : AnthropicSseTranslator × List (Nat × AssembledBlock)) (value : Json) :
    AnthropicSseTranslator × List (Nat × AssembledBlock) :=
  let (t, events) := if state.1.terminalEventSeen then (state.1, [])
    else state.1.translateValue codec ids value
  (t, events.foldl assembleEvent state.2)

theorem foldl_feed (t : AnthropicSseTranslator) (blocks : List (Nat × AssembledBlock))
    (values : List Json) :
    values.foldl (feed codec ids) (t, blocks) =
      ((t.translateValues codec ids values).1,
        (t.translateValues codec ids values).2.foldl assembleEvent blocks) := by
  induction values generalizing t blocks with
  | nil => rfl
  | cons value values ih =>
      rw [List.foldl_cons, feed]
      simp only [translateValues, List.foldl_append]
      exact ih _ _

end Feed

/-! ## Blocks that were streamed -/

/-- The calls before the first text, and then all texts together with the calls after
the first. -/
structure Progress where
  before : List (Nat × AssembledBlock)
  texts : Option (String × List (Nat × AssembledBlock))

namespace Progress

def init : Progress := ⟨[], none⟩

def blocks (p : Progress) : List (Nat × AssembledBlock) :=
  p.before ++ match p.texts with
    | none => []
    | some (text, after) => (0, .text text) :: after

def addText (p : Progress) (text : String) : Progress :=
  match p.texts with
  | none => { p with texts := some (text, []) }
  | some (texts, after) => { p with texts := some (texts ++ text, after) }

def addCall (p : Progress) (call : Nat × AssembledBlock) : Progress :=
  match p.texts with
  | none => { p with before := p.before ++ [call] }
  | some (texts, after) => { p with texts := some (texts, after ++ [call]) }

def addItem (p : Progress) (index : Nat) : OutputItem → Progress
  | .message content => (OutputItem.message content).texts.foldl addText p
  | .reasoning _ => p
  | .functionCall callId name arguments =>
    p.addCall (index, .toolUse callId name arguments)

def addItems (p : Progress) : (index : Nat) → List OutputItem → Progress
  | _, [] => p
  | index, item :: items => (p.addItem index item).addItems (index + 1) items

theorem blocks_addCall (p : Progress) (call : Nat × AssembledBlock) :
    (p.addCall call).blocks = p.blocks ++ [call] := by
  obtain ⟨before, texts⟩ := p
  cases texts <;> simp [blocks, addCall]

theorem addText_addText (p : Progress) (text text' : String) :
    (p.addText text).addText text' = p.addText (text ++ text') := by
  obtain ⟨before, texts⟩ := p
  cases texts <;> simp [addText, String.append_assoc]

theorem foldl_addText (p : Progress) {pieces : List String} (h : pieces ≠ []) :
    pieces.foldl addText p = p.addText (String.join pieces) := by
  induction pieces generalizing p with
  | nil => exact absurd rfl h
  | cons piece pieces ih =>
      rw [List.foldl_cons, String.join_cons]
      cases pieces with
      | nil => simp
      | cons piece' pieces => rw [ih _ (List.cons_ne_nil _ _), addText_addText]

end Progress

/-! ## The items of a response -/

/-- The translator and the client's blocks between two items, with the places of the
calls that were announced before `index`. -/
structure Streaming (state : AnthropicSseTranslator × List (Nat × AssembledBlock))
    (p : Progress) (calls : Nat → Bool) (index : Nat) : Prop where
  messageStarted : state.1.messageStarted = true
  terminalEventSeen : state.1.terminalEventSeen = false
  textBlockStarted : state.1.textBlockStarted = p.texts.isSome
  noCall : ∀ i, calls i = false → state.1.toolUseBlocks i = none
  call : ∀ i, calls i = true → ∃ block, state.1.toolUseBlocks i = some block ∧
    block.started = true ∧ block.stopped = true ∧ block.deltaEmitted = true
  calls_lt : ∀ i, calls i = true → i < index
  index_pos : p.texts.isSome = true → 0 < index
  after_ne : ∀ texts ∈ p.texts, ∀ block ∈ texts.2, block.1 ≠ 0
  blocks_eq : state.2 = p.blocks.reverse

section Items

variable {codec : SerdeJson} {ids : GeneratedIds} {t : AnthropicSseTranslator}
  {blocks : List (Nat × AssembledBlock)}
  {state : AnthropicSseTranslator × List (Nat × AssembledBlock)} {p : Progress}
  {calls : Nat → Bool} {index : Nat}

theorem feed_of_running (h : state.1.terminalEventSeen = false) (value : Json) :
    feed codec ids state value =
      ((state.1.translateValue codec ids value).1,
        (state.1.translateValue codec ids value).2.foldl assembleEvent state.2) := by
  simp [feed, h]

theorem Streaming.succ (h : Streaming state p calls index) :
    Streaming state p calls (index + 1) :=
  { h with
    calls_lt := fun i hi => Nat.lt_succ_of_lt (h.calls_lt i hi)
    index_pos := fun _ => Nat.succ_pos index }

theorem ensureMessageStart_of_started (h : t.messageStarted = true) (response : Json) :
    t.ensureMessageStart ids response = (t, []) := by
  simp [ensureMessageStart, h]

/-- Events that the translator takes no notice of. -/
def ignoredTypes : List String :=
  ["response.in_progress", "response.content_part.added", "response.content_part.done",
    "response.output_text.done", "response.refusal.delta"]

theorem feed_ignored {type : String} (htype : type ∈ ignoredTypes) {value : Json}
    (hvalue : value.getStr "type" = some type) : feed codec ids state value = state := by
  have hnone : state.1.translateValue codec ids value = (state.1, []) := by
    simp only [ignoredTypes, List.mem_cons, List.not_mem_nil, or_false] at htype
    obtain rfl | rfl | rfl | rfl | rfl := htype <;> simp [translateValue, hvalue]
  simp [feed, hnone]

theorem feed_ignored_item {type field : String} (htype : type ∈ ignoredTypes)
    (hfield : field ≠ "type") (i : Nat) (value : Json) :
    feed codec ids state (itemEvent type i field value) = state :=
  feed_ignored htype (itemEvent_type type hfield i value)

theorem appendDelta_of_ne {index : Nat} {delta : AnthropicDelta}
    {bs bs' : List (Nat × AssembledBlock)} (h : ∀ b ∈ bs, b.1 ≠ index) :
    appendDelta index delta (bs ++ bs') = bs ++ appendDelta index delta bs' := by
  induction bs with
  | nil => rfl
  | cons b bs ih =>
      rw [List.cons_append, appendDelta, if_neg (h b List.mem_cons_self),
        ih fun b' hb' => h b' (List.mem_cons_of_mem _ hb'), List.cons_append]

variable (codec ids)

/-! ### Texts -/

theorem Streaming.feed_textDelta (h : Streaming state p calls index) (hpos : 0 < index)
    (i : Nat) (delta : String) :
    Streaming
      (feed codec ids state (itemEvent "response.output_text.delta" i "delta" (.str delta)))
      (p.addText delta) calls index := by
  have htype := itemEvent_type "response.output_text.delta"
    (show "delta" ≠ "type" by decide) i (.str delta)
  have hdelta : (itemEvent "response.output_text.delta" i "delta" (.str delta)).getStr "delta" =
      some delta := by
    rw [Json.getStr, itemEvent_get]
    rfl
  rw [feed_of_running h.terminalEventSeen]
  simp only [translateValue, htype, Option.getD_some, handleOutputTextDelta, hdelta,
    ensureMessageStart_of_started h.messageStarted, List.nil_append]
  obtain ⟨before, texts⟩ := p
  cases texts with
  | none =>
      have htext : state.1.textBlockStarted = false := h.textBlockStarted
      simp only [htext, Bool.false_eq_true, if_false]
      refine ⟨h.messageStarted, h.terminalEventSeen, rfl, h.noCall, h.call, h.calls_lt,
        fun _ => hpos, ?_, ?_⟩
      · simp [Progress.addText]
      · simp [assembleEvent, appendDelta, AssembledBlock.start, AssembledBlock.append,
          h.blocks_eq, Progress.blocks, Progress.addText]
  | some texts =>
      have htext : state.1.textBlockStarted = true := h.textBlockStarted
      simp only [htext, if_true]
      refine ⟨h.messageStarted, h.terminalEventSeen, htext, h.noCall, h.call, h.calls_lt,
        fun _ => hpos, ?_, ?_⟩
      · simpa [Progress.addText] using h.after_ne
      · have hafter : ∀ b ∈ texts.2.reverse, b.1 ≠ 0 := by
          simpa using h.after_ne
        have hblocks : state.2 = texts.2.reverse ++ (0, .text texts.1) :: before.reverse := by
          simp [h.blocks_eq, Progress.blocks]
        simp [assembleEvent, hblocks, appendDelta_of_ne hafter, appendDelta,
          AssembledBlock.append, Progress.blocks, Progress.addText]

theorem Streaming.feed_textDeltas (h : Streaming state p calls index) (hpos : 0 < index)
    (i : Nat) (deltas : List String) :
    Streaming
      ((deltas.map fun delta =>
        itemEvent "response.output_text.delta" i "delta" (.str delta)).foldl
          (feed codec ids) state)
      (deltas.foldl Progress.addText p) calls index := by
  induction deltas generalizing state p with
  | nil => exact h
  | cons delta deltas ih => exact ih (h.feed_textDelta codec ids hpos i delta)

theorem Streaming.feed_part (h : Streaming state p calls index) (hpos : 0 < index)
    (splitting : Splitting) (i : Nat) (part : MessagePart) :
    Streaming ((announcePart splitting i part).foldl (feed codec ids) state)
      (part.text?.toList.foldl Progress.addText p) calls index := by
  cases part with
  | outputText text =>
      have htexts := h.feed_textDeltas codec ids hpos i (splitting.split text)
      rw [Progress.foldl_addText p (splitting.split_ne_nil text), splitting.join_split] at htexts
      simp only [announcePart, List.foldl_append, List.foldl_cons, List.foldl_nil]
      rw [feed_ignored_item (by decide) (by decide), feed_ignored_item (by decide) (by decide),
        feed_ignored_item (by decide) (by decide)]
      exact htexts
  | refusal text =>
      simp only [announcePart, List.foldl_cons, List.foldl_nil]
      rw [feed_ignored_item (by decide) (by decide), feed_ignored_item (by decide) (by decide),
        feed_ignored_item (by decide) (by decide)]
      exact h

theorem Streaming.feed_parts (h : Streaming state p calls index) (hpos : 0 < index)
    (splitting : Splitting) (i : Nat) (content : List MessagePart) :
    Streaming ((content.flatMap (announcePart splitting i)).foldl (feed codec ids) state)
      ((content.filterMap MessagePart.text?).foldl Progress.addText p) calls index := by
  induction content generalizing state p with
  | nil => exact h
  | cons part content ih =>
      have hparts := ih (h.feed_part codec ids hpos splitting i part)
      rw [List.flatMap_cons, List.foldl_append]
      cases part with
      | outputText text => exact hparts
      | refusal text => exact hparts

/-! ### Function calls -/

structure CallOpen (state : AnthropicSseTranslator × List (Nat × AssembledBlock))
    (p : Progress) (calls : Nat → Bool) (index : Nat) (callId name partialJson : String)
    (deltaEmitted : Bool) : Prop where
  messageStarted : state.1.messageStarted = true
  terminalEventSeen : state.1.terminalEventSeen = false
  textBlockStarted : state.1.textBlockStarted = p.texts.isSome
  noCall : ∀ i, i ≠ index → calls i = false → state.1.toolUseBlocks i = none
  call : ∀ i, calls i = true → ∃ block, state.1.toolUseBlocks i = some block ∧
    block.started = true ∧ block.stopped = true ∧ block.deltaEmitted = true
  block : state.1.toolUseBlocks index = some ⟨callId, name, true, deltaEmitted, false⟩
  blocks_eq : state.2 = (index, .toolUse callId name partialJson) :: p.blocks.reverse

theorem functionCall_get (callId name arguments : String) :
    (OutputItem.functionCall callId name arguments).toJson.getStr "type" =
        some "function_call" ∧
      functionCallId (OutputItem.functionCall callId name arguments).toJson = some callId ∧
      (OutputItem.functionCall callId name arguments).toJson.getStr "name" = some name ∧
      (OutputItem.functionCall callId name arguments).toJson.get "arguments" =
        some (.str arguments) := by
  simp [OutputItem.toJson, functionCallId, Json.getStr, Json.get_ofFields, Json.lookupField,
    Json.asStr]

theorem functionCallItem_itemEvent (type : String) (i : Nat) (callId name arguments : String) :
    functionCallItem (itemEvent type i "item"
      (OutputItem.functionCall callId name arguments).toJson) =
        some (OutputItem.functionCall callId name arguments).toJson := by
  simp [functionCallItem, itemEvent_get, (functionCall_get callId name arguments).1]

theorem functionCallItem_eq_none {item : OutputItem} (h : item.isCall = false)
    (type : String) (i : Nat) : functionCallItem (itemEvent type i "item" item.toJson) = none := by
  cases item with
  | functionCall callId name arguments => cases h
  | message content =>
      simp [functionCallItem, itemEvent_get, OutputItem.toJson, Json.getStr, Json.get_ofFields,
        Json.lookupField, Json.asStr]
  | reasoning id =>
      simp [functionCallItem, itemEvent_get, OutputItem.toJson, Json.getStr, Json.get_ofFields,
        Json.lookupField, Json.asStr]

theorem feed_itemAdded_of_not_call {item : OutputItem} (h : item.isCall = false) (i : Nat) :
    feed codec ids state (itemEvent "response.output_item.added" i "item" item.toJson) =
      state := by
  have htype := itemEvent_type "response.output_item.added"
    (show "item" ≠ "type" by decide) i item.toJson
  have hitem := functionCallItem_eq_none h "response.output_item.added" i
  have hnone : state.1.translateValue codec ids
      (itemEvent "response.output_item.added" i "item" item.toJson) = (state.1, []) := by
    simp only [translateValue, htype, Option.getD_some, handleResponseOutputItemAdded, hitem]
  simp [feed, hnone]

theorem feed_itemDone_of_not_call {item : OutputItem} (h : item.isCall = false) (i : Nat) :
    feed codec ids state (itemEvent "response.output_item.done" i "item" item.toJson) =
      state := by
  have htype := itemEvent_type "response.output_item.done"
    (show "item" ≠ "type" by decide) i item.toJson
  have hitem := functionCallItem_eq_none h "response.output_item.done" i
  have hnone : state.1.translateValue codec ids
      (itemEvent "response.output_item.done" i "item" item.toJson) = (state.1, []) := by
    simp only [translateValue, htype, Option.getD_some, handleResponseOutputItemDone, hitem]
  simp [feed, hnone]

theorem Streaming.feed_callAdded (h : Streaming state p calls index) (hindex : index < 2 ^ 64)
    (callId name : String) :
    CallOpen (feed codec ids state (itemEvent "response.output_item.added" index "item"
      (OutputItem.functionCall callId name "").toJson)) p calls index callId name "" false := by
  have htype := itemEvent_type "response.output_item.added"
    (show "item" ≠ "type" by decide) index (OutputItem.functionCall callId name "").toJson
  have hitem := functionCallItem_itemEvent "response.output_item.added" index callId name ""
  obtain ⟨-, hid, hname, -⟩ := functionCall_get callId name ""
  have hnone : calls index = false := by
    rw [Bool.eq_false_iff]
    exact fun hc => Nat.lt_irrefl index (h.calls_lt index hc)
  rw [feed_of_running h.terminalEventSeen]
  simp only [translateValue, htype, Option.getD_some, handleResponseOutputItemAdded, hitem,
    itemEvent_outputIndex hindex _ (show "item" ≠ "output_index" by decide),
    ensureToolUseBlockStarted, ensureMessageStart_of_started h.messageStarted,
    h.noCall index hnone, Option.getD_none, ToolUseStreamState.named,
    ToolUseStreamState.default, hid, hname, if_true, Bool.or_self, Bool.false_eq_true,
    if_false, List.nil_append, List.foldl_cons, List.foldl_nil, assembleEvent,
    AssembledBlock.start]
  refine ⟨h.messageStarted, h.terminalEventSeen, h.textBlockStarted, fun i hi hc => ?_,
    fun i hc => ?_, toolUseBlocks_setToolUseBlock_self, by rw [h.blocks_eq]⟩
  · simpa [setToolUseBlock, Function.update_of_ne hi] using h.noCall i hc
  · have hi : i ≠ index := by
      rintro rfl
      rw [hnone] at hc
      cases hc
    simpa [setToolUseBlock, Function.update_of_ne hi] using h.call i hc

theorem named_null (block : ToolUseStreamState) : block.named .null = block := by
  obtain ⟨id, name, started, deltaEmitted, stopped⟩ := block
  simp only [ToolUseStreamState.named, functionCallId, Json.getStr, Json.get, Option.or_none,
    Option.bind_none, Option.getD_none, ToolUseStreamState.mk.injEq, and_self, and_true]
  exact ⟨by split <;> simp_all, by split <;> simp_all⟩

section Open

variable {callId name partialJson : String} {deltaEmitted : Bool}

theorem CallOpen.setToolUseBlock {t' : AnthropicSseTranslator}
    (h : CallOpen state p calls index callId name partialJson deltaEmitted)
    (hmessage : t'.messageStarted = true) (hterminal : t'.terminalEventSeen = false)
    (htext : t'.textBlockStarted = state.1.textBlockStarted)
    (hother : ∀ i, i ≠ index → t'.toolUseBlocks i = state.1.toolUseBlocks i)
    {deltaEmitted' : Bool}
    (hblock : t'.toolUseBlocks index = some ⟨callId, name, true, deltaEmitted', false⟩)
    (hcall : calls index = false) {partialJson' : String} :
    CallOpen (t', (index, .toolUse callId name partialJson') :: p.blocks.reverse) p calls
      index callId name partialJson' deltaEmitted' where
  messageStarted := hmessage
  terminalEventSeen := hterminal
  textBlockStarted := htext.trans h.textBlockStarted
  noCall i hi hc := (hother i hi).trans (h.noCall i hi hc)
  call i hc := by
    have hi : i ≠ index := by
      rintro rfl
      rw [hcall] at hc
      cases hc
    obtain ⟨block, hb, hrest⟩ := h.call i hc
    exact ⟨block, (hother i hi).trans hb, hrest⟩
  block := hblock
  blocks_eq := rfl

theorem CallOpen.feed_callDelta
    (h : CallOpen state p calls index callId name partialJson deltaEmitted)
    (hindex : index < 2 ^ 64) (hcall : calls index = false) (delta : String) :
    CallOpen (feed codec ids state
      (itemEvent "response.function_call_arguments.delta" index "delta" (.str delta)))
      p calls index callId name (partialJson ++ delta) true := by
  have htype := itemEvent_type "response.function_call_arguments.delta"
    (show "delta" ≠ "type" by decide) index (.str delta)
  have hdelta : (itemEvent "response.function_call_arguments.delta" index "delta"
      (.str delta)).getStr "delta" = some delta := by
    rw [Json.getStr, itemEvent_get]
    rfl
  have hitem : (itemEvent "response.function_call_arguments.delta" index "delta"
      (.str delta)).get "item" = none :=
    itemEvent_get_of_ne (by decide) (by decide) (by decide) _ _
  rw [feed_of_running h.terminalEventSeen]
  simp only [translateValue, htype, Option.getD_some, handleFunctionCallArgumentsDelta, hdelta,
    hitem, Option.getD_none,
    itemEvent_outputIndex hindex _ (show "delta" ≠ "output_index" by decide),
    ensureToolUseBlockStarted_of_started h.messageStarted h.block rfl, named_null,
    toolUseBlocks_setToolUseBlock_self, List.nil_append, List.foldl_cons, List.foldl_nil,
    assembleEvent, h.blocks_eq, appendDelta, if_true, AssembledBlock.append]
  refine h.setToolUseBlock ?_ ?_ ?_ (fun i hi => ?_) toolUseBlocks_setToolUseBlock_self hcall
  · exact h.messageStarted
  · exact h.terminalEventSeen
  · rfl
  · simp [hi]

theorem CallOpen.feed_callDeltas
    (h : CallOpen state p calls index callId name partialJson deltaEmitted)
    (hindex : index < 2 ^ 64) (hcall : calls index = false) {deltas : List String}
    (hne : deltas ≠ []) :
    CallOpen ((deltas.map fun delta =>
        itemEvent "response.function_call_arguments.delta" index "delta"
          (.str delta)).foldl (feed codec ids) state)
      p calls index callId name (partialJson ++ String.join deltas) true := by
  induction deltas generalizing state partialJson deltaEmitted with
  | nil => exact absurd rfl hne
  | cons delta deltas ih =>
      have hfirst := h.feed_callDelta codec ids hindex hcall delta
      rw [List.map_cons, List.foldl_cons, String.join_cons, ← String.append_assoc]
      cases deltas with
      | nil => simpa using hfirst
      | cons delta' deltas => exact ih hfirst (List.cons_ne_nil _ _)

/-- A tool block of the call that is stopped, with its arguments. -/
theorem Streaming.addCall {state' : AnthropicSseTranslator × List (Nat × AssembledBlock)}
    (h : Streaming state p calls index) (hmessage : state'.1.messageStarted = true)
    (hterminal : state'.1.terminalEventSeen = false)
    (htext : state'.1.textBlockStarted = p.texts.isSome)
    (hnoCall : ∀ i, i ≠ index → calls i = false → state'.1.toolUseBlocks i = none)
    (hcall : ∀ i, calls i = true → ∃ block, state'.1.toolUseBlocks i = some block ∧
      block.started = true ∧ block.stopped = true ∧ block.deltaEmitted = true)
    (hblock : ∃ block, state'.1.toolUseBlocks index = some block ∧
      block.started = true ∧ block.stopped = true ∧ block.deltaEmitted = true)
    {arguments : String}
    (hblocks : state'.2 = (index, .toolUse callId name arguments) :: p.blocks.reverse) :
    Streaming state' (p.addCall (index, .toolUse callId name arguments))
      (Function.update calls index true) (index + 1) where
  messageStarted := hmessage
  terminalEventSeen := hterminal
  textBlockStarted := by
    rw [htext]
    obtain ⟨before, texts⟩ := p
    cases texts <;> rfl
  noCall i hc := by
    by_cases hi : i = index
    · rw [hi, Function.update_self] at hc
      cases hc
    · rw [Function.update_of_ne hi] at hc
      exact hnoCall i hi hc
  call i hc := by
    by_cases hi : i = index
    · rw [hi]
      exact hblock
    · rw [Function.update_of_ne hi] at hc
      exact hcall i hc
  calls_lt i hc := by
    by_cases hi : i = index
    · omega
    · rw [Function.update_of_ne hi] at hc
      exact Nat.lt_succ_of_lt (h.calls_lt i hc)
  index_pos _ := Nat.succ_pos index
  after_ne := by
    have hpos := h.index_pos
    have hafter := h.after_ne
    obtain ⟨before, texts⟩ := p
    cases texts with
    | none => simp [Progress.addCall]
    | some texts =>
        rintro _ ⟨⟩ block hb
        obtain hb | hb := List.mem_append.1 hb
        · exact hafter texts rfl block hb
        · rw [List.mem_singleton.1 hb]
          exact Nat.ne_of_gt (hpos rfl)
  blocks_eq := by rw [hblocks, Progress.blocks_addCall, List.reverse_append]; rfl

theorem emitFinalArguments_of_deltaEmitted {block : ToolUseStreamState}
    (h : block.deltaEmitted = true) (finalArguments : Option String) :
    emitFinalArguments index block finalArguments = (block, []) := by
  simp [emitFinalArguments, h]

/-- The arguments are done: the block is stopped. -/
theorem CallOpen.feed_callDone
    {state' : AnthropicSseTranslator × List (Nat × AssembledBlock)}
    (h : CallOpen state' p calls index callId name partialJson true)
    (hs : Streaming state p calls index) (hindex : index < 2 ^ 64) (hcall : calls index = false)
    (arguments : String) :
    Streaming (feed codec ids state'
      (itemEvent "response.function_call_arguments.done" index "arguments" (.str arguments)))
      (p.addCall (index, .toolUse callId name partialJson)) (Function.update calls index true)
      (index + 1) := by
  have htype := itemEvent_type "response.function_call_arguments.done"
    (show "arguments" ≠ "type" by decide) index (.str arguments)
  have hitem : (itemEvent "response.function_call_arguments.done" index "arguments"
      (.str arguments)).get "item" = none :=
    itemEvent_get_of_ne (by decide) (by decide) (by decide) _ _
  rw [feed_of_running h.terminalEventSeen]
  simp only [translateValue, htype, Option.getD_some, handleFunctionCallArgumentsDone, hitem,
    itemEvent_outputIndex hindex _ (show "arguments" ≠ "output_index" by decide),
    closeToolUseBlock_of_started h.messageStarted h.block rfl, Option.getD_none, named_null,
    emitFinalArguments_of_deltaEmitted, Bool.false_eq_true, if_false, List.nil_append,
    List.foldl_cons, List.foldl_nil, assembleEvent]
  refine hs.addCall ?_ ?_ ?_ (fun i hi hc => ?_) (fun i hc => ?_)
    ⟨_, toolUseBlocks_setToolUseBlock_self, rfl, rfl, rfl⟩ h.blocks_eq
  · exact h.messageStarted
  · exact h.terminalEventSeen
  · exact h.textBlockStarted
  · simpa [hi] using h.noCall i hi hc
  · have hi : i ≠ index := by
      rintro rfl
      rw [hcall] at hc
      cases hc
    simpa [hi] using h.call i hc

end Open

/-- Nothing comes of the item of a call that is done. -/
theorem Streaming.feed_itemDone (h : Streaming state p calls index) {i : Nat}
    (hi : i < 2 ^ 64) (hcall : calls i = true) (callId name arguments : String) :
    Streaming (feed codec ids state (itemEvent "response.output_item.done" i "item"
      (OutputItem.functionCall callId name arguments).toJson)) p calls index := by
  have htype := itemEvent_type "response.output_item.done"
    (show "item" ≠ "type" by decide) i (OutputItem.functionCall callId name arguments).toJson
  have hitem := functionCallItem_itemEvent "response.output_item.done" i callId name arguments
  obtain ⟨block, hblock, hstart, hstop, hdelta⟩ := h.call i hcall
  rw [feed_of_running h.terminalEventSeen]
  simp only [translateValue, htype, Option.getD_some, handleResponseOutputItemDone, hitem,
    itemEvent_outputIndex hi _ (show "item" ≠ "output_index" by decide),
    closeToolUseBlock_of_started h.messageStarted hblock hstart]
  rw [emitFinalArguments_of_deltaEmitted (by exact hdelta)]
  simp only [ToolUseStreamState.stopped_named, hstop, if_true, List.foldl_nil]
  refine ⟨h.messageStarted, h.terminalEventSeen, h.textBlockStarted, fun j hc => ?_,
    fun j hc => ?_, h.calls_lt, h.index_pos, h.after_ne, h.blocks_eq⟩
  · have hj : j ≠ i := by
      rintro rfl
      rw [hcall] at hc
      cases hc
    simpa [hj] using h.noCall j hc
  · by_cases hj : j = i
    · subst hj
      exact ⟨_, toolUseBlocks_setToolUseBlock_self, hstart, hstop, hdelta⟩
    · simpa [hj] using h.call j hc

/-! ### All items -/

/-- The places of the calls, an item later. -/
def markCall (calls : Nat → Bool) (index : Nat) (item : OutputItem) : Nat → Bool :=
  if item.isCall then Function.update calls index true else calls

theorem Streaming.feed_item (h : Streaming state p calls index) (hindex : index < 2 ^ 64)
    (splitting : Splitting) (item : OutputItem) :
    Streaming ((announceItem splitting index item).foldl (feed codec ids) state)
      (p.addItem index item) (markCall calls index item) (index + 1) := by
  cases item with
  | message content =>
      simp only [announceItem, List.foldl_append, List.foldl_cons, List.foldl_nil]
      rw [feed_itemAdded_of_not_call codec ids rfl, feed_itemDone_of_not_call codec ids rfl]
      exact h.succ.feed_parts codec ids (Nat.succ_pos index) splitting index content
  | reasoning id =>
      simp only [announceItem, List.foldl_cons, List.foldl_nil]
      rw [feed_itemAdded_of_not_call codec ids rfl, feed_itemDone_of_not_call codec ids rfl]
      exact h.succ
  | functionCall callId name arguments =>
      have hcall : calls index = false := by
        rw [Bool.eq_false_iff]
        exact fun hc => Nat.lt_irrefl index (h.calls_lt index hc)
      have hdeltas := (h.feed_callAdded codec ids hindex callId name).feed_callDeltas codec ids
        hindex hcall (splitting.split_ne_nil arguments)
      rw [splitting.join_split, String.empty_append] at hdeltas
      have hdone := hdeltas.feed_callDone codec ids h hindex hcall arguments
      have hitem := hdone.feed_itemDone codec ids hindex (Function.update_self index true calls)
        callId name arguments
      simp only [announceItem, List.foldl_append, List.foldl_cons, List.foldl_nil]
      exact hitem

def markCalls (calls : Nat → Bool) : (index : Nat) → List OutputItem → Nat → Bool
  | _, [] => calls
  | index, item :: items => markCalls (markCall calls index item) (index + 1) items

theorem Streaming.feed_items (h : Streaming state p calls index) (splitting : Splitting)
    {items : List OutputItem} (hindex : index + items.length ≤ 2 ^ 64) :
    Streaming ((announceItems splitting index items).foldl (feed codec ids) state)
      (p.addItems index items) (markCalls calls index items) (index + items.length) := by
  induction items generalizing state p calls index with
  | nil => exact h
  | cons item items ih =>
      have hlength : (item :: items).length = items.length + 1 := rfl
      have hfirst := h.feed_item codec ids (by omega) splitting item
      have hrest := ih hfirst (by omega)
      rw [announceItems, List.foldl_append, show index + (item :: items).length =
        index + 1 + items.length by omega]
      exact hrest

theorem markCalls_apply (calls : Nat → Bool) (index : Nat) (items : List OutputItem)
    (i : Nat) :
    markCalls calls index items i =
      (calls i || (decide (index ≤ i) && (items[i - index]?).any OutputItem.isCall)) := by
  induction items generalizing calls index with
  | nil => simp [markCalls]
  | cons item items ih =>
      rw [markCalls, ih]
      obtain hlt | rfl | hgt := Nat.lt_trichotomy i index
      · have hmark : markCall calls index item i = calls i := by
          unfold markCall
          split
          · exact Function.update_of_ne (Nat.ne_of_lt hlt) _ _
          · rfl
        have h₁ : ¬ index + 1 ≤ i := by omega
        have h₂ : ¬ index ≤ i := by omega
        simp [hmark, h₁, h₂]
      · cases hc : item.isCall <;> simp [markCall, hc]
      · have hmark : markCall calls index item i = calls i := by
          unfold markCall
          split
          · exact Function.update_of_ne (Nat.ne_of_gt hgt) _ _
          · rfl
        have hsub : i - index = i - (index + 1) + 1 := by omega
        have h₁ : index + 1 ≤ i := hgt
        have h₂ : index ≤ i := by omega
        rw [hmark, hsub, List.getElem?_cons_succ]
        simp [h₁, h₂]

/-! ### The completed response -/

/-- A block of the content as the completed response brings it once more. -/
def fullBlock (block : AnthropicContentBlock × Nat) : Nat × AssembledBlock :=
  (block.2, match block.1 with
    | .text text => .text text
    | .toolUse id name input => .toolUse id name (codec.toText input))

/-- The blocks that the completed response brings: all but the calls that the translator
finds at their place. -/
def replayed (calls : Nat → Bool) (content : List (AnthropicContentBlock × Nat)) :
    List (Nat × AssembledBlock) :=
  (content.filter fun block => !(block.1.isToolUse && calls block.2)).map (fullBlock codec)

theorem foldl_assembleEvent_full (t : AnthropicSseTranslator) (index : Nat)
    (block : AnthropicContentBlock) (blocks : List (Nat × AssembledBlock)) :
    (t.emitFullContentBlock codec index block).2.foldl assembleEvent blocks =
      fullBlock codec (block, index) :: blocks := by
  cases block <;>
    simp [emitFullContentBlock, assembleEvent, appendDelta, AssembledBlock.start,
      AssembledBlock.append, fullBlock]

/-- The calls that were streamed are at their places. -/
structure CallsStreamed (t : AnthropicSseTranslator) (calls : Nat → Bool) : Prop where
  messageStarted : t.messageStarted = true
  noCall : ∀ i, calls i = false → t.toolUseBlocks i = none
  call : ∀ i, calls i = true → ∃ block, t.toolUseBlocks i = some block ∧
    block.started = true ∧ block.stopped = true ∧ block.deltaEmitted = true

theorem CallsStreamed.emitFull (h : CallsStreamed t calls) (block : AnthropicContentBlock)
    (index : Nat) (blocks : List (Nat × AssembledBlock)) :
    (t.emitFullContentBlock codec index block).2.foldl assembleEvent blocks =
        fullBlock codec (block, index) :: blocks ∧
      CallsStreamed (t.emitFullContentBlock codec index block).1 calls :=
  ⟨foldl_assembleEvent_full codec t index block blocks, h.messageStarted, h.noCall, h.call⟩

theorem CallsStreamed.maybeEmitOrClose (h : CallsStreamed t calls)
    (block : AnthropicContentBlock) (index : Nat) (blocks : List (Nat × AssembledBlock)) :
    (t.maybeEmitOrCloseContentBlock codec ids index block).2.foldl assembleEvent blocks =
        (replayed codec calls [(block, index)]).reverse ++ blocks ∧
      CallsStreamed (t.maybeEmitOrCloseContentBlock codec ids index block).1 calls := by
  cases hc : calls index with
  | false =>
      rw [maybeEmitOrCloseContentBlock_of_none (h.noCall index hc)]
      simpa [replayed, hc] using h.emitFull codec block index blocks
  | true =>
      cases block with
      | text text => exact h.emitFull codec (.text text) index blocks
      | toolUse id name input =>
          obtain ⟨state, hstate, hstart, hstop, hdelta⟩ := h.call index hc
          simp only [maybeEmitOrCloseContentBlock, hstate,
            closeToolUseBlock_of_started h.messageStarted hstate hstart]
          rw [emitFinalArguments_of_deltaEmitted (by exact hdelta)]
          simp only [ToolUseStreamState.stopped_named, hstop, if_true, List.foldl_nil]
          refine ⟨by simp [replayed, AnthropicContentBlock.isToolUse, hc], h.messageStarted,
            fun i hi => ?_, fun i hi => ?_⟩
          · have hne : i ≠ index := by
              rintro rfl
              rw [hc] at hi
              cases hi
            simpa [hne] using h.noCall i hi
          · by_cases hne : i = index
            · subst hne
              exact ⟨_, toolUseBlocks_setToolUseBlock_self, hstart, hstop, hdelta⟩
            · simpa [hne] using h.call i hi

theorem CallsStreamed.emitOrClose (h : CallsStreamed t calls)
    (content : List (AnthropicContentBlock × Nat)) (blocks : List (Nat × AssembledBlock)) :
    (t.emitOrCloseContentBlocks codec ids content).2.foldl assembleEvent blocks =
      (replayed codec calls content).reverse ++ blocks := by
  induction content generalizing t blocks with
  | nil => rfl
  | cons block content ih =>
      obtain ⟨hblock, hcalls⟩ := h.maybeEmitOrClose codec ids block.1 block.2 blocks
      simp only [emitOrCloseContentBlocks, List.foldl_append, hblock, ih hcalls]
      rw [← List.append_assoc, ← List.reverse_append]
      simp only [replayed, ← List.map_append, ← List.filter_append]
      rfl

/-- The blocks of the content that are gone through again. -/
def remainingContent (p : Progress) (content : List AnthropicContentBlock) :
    List (AnthropicContentBlock × Nat) :=
  if p.texts.isSome then content.zipIdx.drop 1 else content.zipIdx

theorem Streaming.handleResponseCompleted (h : Streaming state p calls index)
    (value : Json) :
    ((state.1.handleResponseCompleted codec ids value).2.foldl assembleEvent state.2 =
      (p.blocks ++ replayed codec calls (remainingContent p
        (anthropicContentFromResponsesOutput codec ids (responseOf value)))).reverse) ∧
    ∃ events usage contextManagement,
      (state.1.handleResponseCompleted codec ids value).2 =
        events ++ [.messageDelta (anthropicStopReason codec ids (responseOf value)) usage
          contextManagement, .messageStop] := by
  refine ⟨?_, _, _, _, rfl⟩
  have hmessage : ({ state.1 with terminalEventSeen := true }.setResponseId
      (responseOf value)).messageStarted = true := h.messageStarted
  have hcalls : CallsStreamed ({ state.1 with terminalEventSeen := true }.setResponseId
      (responseOf value)) calls := ⟨hmessage, h.noCall, h.call⟩
  simp only [AnthropicSseTranslator.handleResponseCompleted,
    ensureMessageStart_of_started hmessage, List.nil_append, List.foldl_append]
  have hstops : ∀ stops : Bool, (if stops = true then [AnthropicEvent.contentBlockStop 0]
      else []).foldl assembleEvent state.2 = state.2 := by
    intro stops
    split <;> rfl
  have hremaining : ∀ content, ({ state.1 with terminalEventSeen := true }.setResponseId
      (responseOf value)).remainingBlocks content = remainingContent p content := by
    intro content
    simp [remainingBlocks, remainingContent, setResponseId, h.textBlockStarted]
  rw [hstops, hremaining, hcalls.emitOrClose codec ids, h.blocks_eq, List.reverse_append]
  rfl

/-- The places of the calls in an output. -/
def callAt (output : List OutputItem) (i : Nat) : Bool := (output[i]?).any OutputItem.isCall

theorem markCalls_eq_callAt (output : List OutputItem) :
    markCalls (fun _ => false) 0 output = callAt output := by
  funext i
  simp [markCalls_apply, callAt]

/-- The announcement up to the completed response. -/
def announcementBody (splitting : Splitting) (created : Json) (output : List OutputItem) :
    List Json :=
  [upstreamEvent "response.created" [("response", created)],
    upstreamEvent "response.in_progress" [("response", created)]] ++
    announceItems splitting 0 output

theorem streaming_created (created : Json) (requestedModel : String)
    (contextManagement : Option Json) :
    Streaming (feed codec ids (new requestedModel contextManagement, [])
      (upstreamEvent "response.created" [("response", created)]))
      .init (fun _ => false) 0 := by
  have htype : (upstreamEvent "response.created" [("response", created)]).getStr "type" =
      some "response.created" := upstreamEvent_type (by simp)
  rw [feed_of_running rfl]
  simp only [translateValue, htype, Option.getD_some, handleResponseCreated]
  refine ⟨by simp, by simp [setResponseId, new], by simp [setResponseId, new, Progress.init],
    fun i _ => by simp [setResponseId, new], fun i hi => ?_, fun i hi => ?_, fun h => ?_,
    fun texts h => ?_, ?_⟩
  · cases hi
  · cases hi
  · cases h
  · cases h
  · simp [ensureMessageStart, setResponseId, new, assembleEvent, Progress.blocks,
      Progress.init]

theorem streaming_announcementBody (splitting : Splitting) (created : Json)
    (response : UpstreamResponse) (requestedModel : String)
    (contextManagement : Option Json) :
    Streaming ((announcementBody splitting created response.output).foldl (feed codec ids)
      (new requestedModel contextManagement, []))
      (Progress.init.addItems 0 response.output) (callAt response.output)
      response.output.length := by
  have htype : (upstreamEvent "response.in_progress" [("response", created)]).getStr "type" =
      some "response.in_progress" := upstreamEvent_type (by simp)
  have hitems := (streaming_created codec ids created requestedModel
    contextManagement).feed_items codec ids splitting
      (by simpa using response.output_length)
  rw [markCalls_eq_callAt, Nat.zero_add] at hitems
  rw [announcementBody, List.foldl_append, List.foldl_cons, List.foldl_cons, List.foldl_nil,
    feed_ignored (by decide) htype]
  exact hitems

/-- The events of an announcement, put together by the client. -/
theorem assembled_announcement (splitting : Splitting) (created : Json)
    (response : UpstreamResponse) (requestedModel : String)
    (contextManagement : Option Json) :
    let events := (new requestedModel contextManagement).translateEvents codec ids
      (announcement splitting created response)
    let p := Progress.init.addItems 0 response.output
    events.foldl assembleEvent [] =
        (p.blocks ++ replayed codec (callAt response.output) (remainingContent p
          (anthropicContentFromResponsesOutput codec ids response.toJson))).reverse ∧
      assembledStopReason events = some (anthropicStopReason codec ids response.toJson) := by
  intro events p
  have hbody := streaming_announcementBody codec ids splitting created response requestedModel
    contextManagement
  rw [foldl_feed] at hbody
  generalize hbody' : (new requestedModel contextManagement).translateValues codec ids
    (announcementBody splitting created response.output) = body at hbody
  have htype : (upstreamEvent "response.completed" [("response", response.toJson)]).getStr
      "type" = some "response.completed" := upstreamEvent_type (by simp)
  have hresponse : responseOf (upstreamEvent "response.completed"
      [("response", response.toJson)]) = response.toJson := by
    simp [responseOf, upstreamEvent, Json.get_ofFields, Json.lookupField]
  have hcompleted : body.1.translateValues codec ids
      [upstreamEvent "response.completed" [("response", response.toJson)]] =
      body.1.handleResponseCompleted codec ids
        (upstreamEvent "response.completed" [("response", response.toJson)]) := by
    have hrunning : body.1.terminalEventSeen = false := hbody.terminalEventSeen
    simp only [translateValues, hrunning, Bool.false_eq_true, if_false, translateValue, htype,
      Option.getD_some, List.append_nil]
  have hevents : events = body.2 ++ (body.1.handleResponseCompleted codec ids
      (upstreamEvent "response.completed" [("response", response.toJson)])).2 := by
    have hsplit : announcement splitting created response =
        announcementBody splitting created response.output ++
          [upstreamEvent "response.completed" [("response", response.toJson)]] := rfl
    simp only [events, translateEvents, hsplit, translateValues_append, hbody', hcompleted,
      finishOnUpstreamEof, terminalEventSeen_handleResponseCompleted, if_true, List.append_nil]
  obtain ⟨hblocks, pre, usage, context, hlast⟩ := hbody.handleResponseCompleted codec ids
    (upstreamEvent "response.completed" [("response", response.toJson)])
  rw [hresponse] at hblocks hlast
  constructor
  · rw [hevents, List.foldl_append]
    exact hblocks
  · rw [hevents, hlast, assembledStopReason]
    simp only [List.filterMap_append, ← List.append_assoc]
    exact List.getLast?_concat

end Items

end CodexPool
