import CodexPool.Anthropic.Streamed

/-!
# Agreement of the two translations

A client that puts a translated stream together and one that gets the translated response
as a whole see the same content when the texts and the calls of the response stand as the
translator counts them: one text, then the calls right after it, and nothing that is not
empty after them. Any other output is announced with blocks that are lost in the text
block or sent twice.
-/

namespace CodexPool

open AnthropicSseTranslator

/-! ## The content of a response -/

def textsOf (output : List OutputItem) : List String := output.flatMap OutputItem.texts

def callCount (output : List OutputItem) : Nat := output.countP OutputItem.isCall

/-- The calls stand before all other items. -/
def CallsFirst (output : List OutputItem) : Prop :=
  ∀ item ∈ output.dropWhile OutputItem.isCall, item.isCall = false

/-- The outputs on which the translations agree. -/
def Agreeable (output : List OutputItem) : Prop :=
  (∀ text ∈ (textsOf output).tail, text = "") ∧
    (callCount output = 0 ∨ textsOf output = [] ∧ CallsFirst output ∨
      ∃ item items, output = item :: items ∧ item.texts.length = 1 ∧ CallsFirst items)

section Content

variable (codec : SerdeJson) (ids : GeneratedIds)

def OutputItem.blocks : OutputItem → List AnthropicContentBlock
  | .message content => (OutputItem.message content).texts.map .text
  | .reasoning _ => []
  | .functionCall callId name arguments =>
    [.toolUse callId name (parseResponseFunctionArguments codec (.str arguments))]

def blocksOf (output : List OutputItem) : List AnthropicContentBlock :=
  output.flatMap (OutputItem.blocks codec)

theorem messageTexts_toJson (content : List MessagePart) :
    messageTexts (OutputItem.message content).toJson = (OutputItem.message content).texts := by
  have hcontent : (OutputItem.message content).toJson.get "content" =
      some (.arr (content.map MessagePart.toJson)) := by
    simp [OutputItem.toJson, Json.get_ofFields, Json.lookupField]
  have hpart : ∀ part : MessagePart, part.toJson.getStr "text" = part.text? := by
    intro part
    cases part <;>
      simp [MessagePart.toJson, MessagePart.text?, Json.getStr, Json.get_ofFields,
        Json.lookupField, Json.asStr]
  simp only [messageTexts, hcontent, Option.bind_some, Json.asArray, OutputItem.texts,
    List.filterMap_map]
  exact List.filterMap_congr fun part _ => hpart part

theorem anthropicContentFromItem_toJson (index : Nat) (item : OutputItem) :
    anthropicContentFromItem codec ids index item.toJson = item.blocks codec := by
  cases item with
  | message content =>
      have htype : (OutputItem.message content).toJson.getStr "type" = some "message" := by
        simp [OutputItem.toJson, Json.getStr, Json.get_ofFields, Json.lookupField, Json.asStr]
      rw [anthropicContentFromItem, if_pos htype, messageTexts_toJson]
      rfl
  | reasoning id =>
      have htype : (OutputItem.reasoning id).toJson.getStr "type" = some "reasoning" := by
        simp [OutputItem.toJson, Json.getStr, Json.get_ofFields, Json.lookupField, Json.asStr]
      rw [anthropicContentFromItem, htype, if_neg (by decide), if_neg (by decide)]
      rfl
  | functionCall callId name arguments =>
      obtain ⟨htype, hid, hname, harguments⟩ := functionCall_get callId name arguments
      rw [anthropicContentFromItem, htype, if_neg (by decide), if_pos rfl, hid, hname,
        harguments]
      rfl

theorem anthropicContent_toJson (response : UpstreamResponse) :
    anthropicContentFromResponsesOutput codec ids response.toJson =
      if (blocksOf codec response.output).isEmpty then
        ((response.toJson.getStr "output_text").map AnthropicContentBlock.text).toList
      else blocksOf codec response.output := by
  have houtput : response.toJson.get "output" =
      some (.arr (response.output.map OutputItem.toJson)) :=
    Json.get_insert_self rfl _ _
  have hblocks : ((response.output.map OutputItem.toJson).mapIdx
      (anthropicContentFromItem codec ids)).flatten = blocksOf codec response.output := by
    rw [blocksOf, List.flatMap_def]
    congr 1
    apply List.ext_getElem <;> simp [anthropicContentFromItem_toJson]
  simp only [anthropicContentFromResponsesOutput, houtput, Option.bind_some, Json.asArray,
    hblocks]
  cases response.toJson.getStr "output_text" <;> rfl

theorem filter_text_blocksOf (output : List OutputItem) :
    (blocksOf codec output).filter (fun block => !block.isToolUse) =
      (textsOf output).map .text := by
  induction output with
  | nil => rfl
  | cons item output ih =>
      simp only [blocksOf, textsOf, List.flatMap_cons, List.filter_append, List.map_append] at ih ⊢
      rw [ih]
      congr 1
      cases item with
      | message content =>
          simp [OutputItem.blocks, AnthropicContentBlock.isToolUse]
      | reasoning id => rfl
      | functionCall callId name arguments => rfl

/-- The blocks of the calls that are streamed. -/
def callBlocks : (index : Nat) → List OutputItem → List (Nat × AssembledBlock)
  | _, [] => []
  | index, .functionCall callId name arguments :: output =>
    (index, .toolUse callId name arguments) :: callBlocks (index + 1) output
  | index, _ :: output => callBlocks (index + 1) output

theorem callBlocks_toContent (index : Nat) (output : List OutputItem) :
    (callBlocks index output).map (fun block => block.2.toContent codec) =
      (blocksOf codec output).filter AnthropicContentBlock.isToolUse := by
  induction output generalizing index with
  | nil => rfl
  | cons item output ih =>
      simp only [blocksOf, List.flatMap_cons, List.filter_append] at ih ⊢
      cases item with
      | message content =>
          have hnone : ((OutputItem.message content).blocks codec).filter
              AnthropicContentBlock.isToolUse = [] := by
            simp [OutputItem.blocks, AnthropicContentBlock.isToolUse]
          rw [hnone]
          exact ih (index + 1)
      | reasoning id => exact ih (index + 1)
      | functionCall callId name arguments =>
          rw [callBlocks, List.map_cons, ih (index + 1)]
          rfl

theorem length_filter_blocksOf (output : List OutputItem) :
    ((blocksOf codec output).filter AnthropicContentBlock.isToolUse).length =
      callCount output := by
  induction output with
  | nil => rfl
  | cons item output ih =>
      simp only [blocksOf, callCount, List.flatMap_cons, List.filter_append, List.length_append,
        List.countP_cons] at ih ⊢
      rw [ih]
      cases item with
      | message content =>
          simp [OutputItem.blocks, AnthropicContentBlock.isToolUse, OutputItem.isCall]
      | reasoning id => simp [OutputItem.blocks, OutputItem.isCall]
      | functionCall callId name arguments => exact Nat.add_comm 1 _

end Content

/-! ## The blocks that are streamed -/

namespace Progress

theorem foldl_addText_some (before after : List (Nat × AssembledBlock)) (text : String)
    (texts : List String) :
    texts.foldl addText ⟨before, some (text, after)⟩ =
      ⟨before, some (text ++ String.join texts, after)⟩ := by
  induction texts generalizing text with
  | nil => simp
  | cons text' texts ih =>
      rw [List.foldl_cons, addText, ih]
      simp [String.append_assoc]

theorem addItems_some (before after : List (Nat × AssembledBlock)) (text : String)
    (index : Nat) (output : List OutputItem) :
    (⟨before, some (text, after)⟩ : Progress).addItems index output =
      ⟨before, some (text ++ String.join (textsOf output),
        after ++ callBlocks index output)⟩ := by
  induction output generalizing text after index with
  | nil => simp [addItems, textsOf, callBlocks]
  | cons item output ih =>
      cases item with
      | functionCall callId name arguments =>
          rw [addItems, addItem, addCall, ih]
          simp [textsOf, OutputItem.texts, callBlocks]
      | reasoning id =>
          rw [addItems, addItem, ih]
          simp [textsOf, OutputItem.texts, callBlocks]
      | message content =>
          rw [addItems, addItem, foldl_addText_some, ih]
          simp [textsOf, callBlocks, String.append_assoc]

theorem addItems_of_no_texts (before : List (Nat × AssembledBlock)) (index : Nat)
    {output : List OutputItem} (h : textsOf output = []) :
    (⟨before, none⟩ : Progress).addItems index output =
      ⟨before ++ callBlocks index output, none⟩ := by
  induction output generalizing before index with
  | nil => simp [addItems, callBlocks]
  | cons item output ih =>
      simp only [textsOf, List.flatMap_cons, List.append_eq_nil_iff] at h
      cases item with
      | functionCall callId name arguments =>
          rw [addItems, addItem, addCall, ih _ _ h.2]
          simp [callBlocks]
      | reasoning id => rw [addItems, addItem, ih _ _ h.2, callBlocks]; simp
      | message content =>
          rw [addItems, addItem, h.1, List.foldl_nil, ih _ _ h.2, callBlocks]
          simp

/-- All texts are one block; the calls before the first text come before it. -/
theorem addItems_of_texts (codec : SerdeJson) (before : List (Nat × AssembledBlock))
    (index : Nat) {output : List OutputItem} (h : textsOf output ≠ []) :
    ∃ first after, (⟨before, none⟩ : Progress).addItems index output =
        ⟨before ++ first, some (String.join (textsOf output), after)⟩ ∧
      first ++ after = callBlocks index output ∧
      ∀ text blocks, blocksOf codec output = .text text :: blocks → first = [] := by
  induction output generalizing before index with
  | nil => exact absurd rfl h
  | cons item output ih =>
      cases item with
      | functionCall callId name arguments =>
          obtain ⟨first, after, hadd, hcalls, -⟩ := ih
            (before ++ [(index, .toolUse callId name arguments)]) (index + 1) h
          refine ⟨(index, .toolUse callId name arguments) :: first, after, ?_, ?_, ?_⟩
          · rw [addItems, addItem, addCall, hadd]
            simp [textsOf, OutputItem.texts]
          · rw [List.cons_append, hcalls, callBlocks]
          · intro text blocks hblocks
            simp [blocksOf, OutputItem.blocks] at hblocks
      | reasoning id => exact ih before (index + 1) h
      | message content =>
          cases htexts : (OutputItem.message content).texts with
          | nil =>
              have hrest : textsOf output ≠ [] := by
                simpa [textsOf, htexts] using h
              obtain ⟨first, after, hadd, hcalls, hfirst⟩ := ih before (index + 1) hrest
              refine ⟨first, after, ?_, hcalls, ?_⟩
              · rw [addItems, addItem, htexts, List.foldl_nil, hadd]
                simp [textsOf, htexts]
              · simpa [blocksOf, OutputItem.blocks, htexts] using hfirst
          | cons text texts =>
              refine ⟨[], callBlocks (index + 1) output, ?_, rfl, fun _ _ _ => rfl⟩
              rw [addItems, addItem, htexts, List.foldl_cons, addText, foldl_addText_some,
                addItems_some]
              simp [textsOf, htexts, String.append_assoc]

end Progress

/-! ## The blocks that are sent once more -/

/-- What the blocks of the client say. -/
def contentOf (codec : SerdeJson) (blocks : List (Nat × AssembledBlock)) :
    List AnthropicContentBlock :=
  blocks.map fun block => block.2.toContent codec

/-- Every call is at the place where it was streamed. -/
def Placed (calls : Nat → Bool) (content : List (AnthropicContentBlock × Nat)) : Prop :=
  ∀ block ∈ content, block.1.isToolUse = true → calls block.2 = true

section Replay

variable {codec : SerdeJson} {calls : Nat → Bool}
  {content : List (AnthropicContentBlock × Nat)}

theorem isToolUse_fullBlock (block : AnthropicContentBlock × Nat) :
    ((fullBlock codec block).2.toContent codec).isToolUse = block.1.isToolUse := by
  obtain ⟨block, index⟩ := block
  cases block <;> rfl

theorem toContent_fullBlock {block : AnthropicContentBlock × Nat}
    (h : block.1.isToolUse = false) : (fullBlock codec block).2.toContent codec = block.1 := by
  obtain ⟨block, index⟩ := block
  cases block with
  | text text => rfl
  | toolUse id name input => cases h

theorem contentOf_replayed_of_placed (h : Placed calls content) :
    contentOf codec (replayed codec calls content) =
      (content.map Prod.fst).filter fun block => !block.isToolUse := by
  induction content with
  | nil => rfl
  | cons block content ih =>
      have hrest := ih fun b hb => h b (List.mem_cons_of_mem _ hb)
      simp only [replayed, contentOf] at hrest ⊢
      cases htool : block.1.isToolUse with
      | true =>
          have hcall := h block List.mem_cons_self htool
          rw [List.filter_cons_of_neg (by simp [htool, hcall]), hrest, List.map_cons,
            List.filter_cons_of_neg (by simp [htool])]
      | false =>
          rw [List.filter_cons_of_pos (by simp [htool]), List.map_cons, List.map_cons, hrest,
            List.map_cons, List.filter_cons_of_pos (by simp [htool]),
            toContent_fullBlock htool]

theorem countP_text_replayed :
    (contentOf codec (replayed codec calls content)).countP (fun block => !block.isToolUse) =
      (content.map Prod.fst).countP fun block => !block.isToolUse := by
  induction content with
  | nil => rfl
  | cons block content ih =>
      simp only [replayed, contentOf] at ih ⊢
      by_cases htool : (block.1.isToolUse && calls block.2) = true
      · have htool' := (Bool.and_eq_true_iff.1 htool).1
        rw [List.filter_cons_of_neg (by simp [htool]), ih, List.map_cons,
          List.countP_cons_of_neg (by simp [htool'])]
      · have hsent : (!(block.1.isToolUse && calls block.2)) = true := by
          rw [Bool.eq_false_iff.2 htool, Bool.not_false]
        simp only [List.filter_cons, hsent, if_true, List.map_cons, List.countP_cons, ih,
          isToolUse_fullBlock]

theorem placed_of_countP (codec : SerdeJson)
    (h : (contentOf codec (replayed codec calls content)).countP
      AnthropicContentBlock.isToolUse = 0) : Placed calls content := by
  intro block hb htool
  by_contra hcall
  rw [List.countP_eq_zero] at h
  have hmem : fullBlock codec block ∈ replayed codec calls content :=
    List.mem_map_of_mem (List.mem_filter.2 ⟨hb, by simp [hcall]⟩)
  have hnot := h _ (List.mem_map_of_mem hmem)
  rw [isToolUse_fullBlock] at hnot
  exact hnot htool

end Replay

/-! ## Outputs with texts -/

/-- The calls stand before the texts. -/
def ToolsFirst (blocks : List AnthropicContentBlock) : Prop :=
  blocks = blocks.filter AnthropicContentBlock.isToolUse ++
    blocks.filter fun block => !block.isToolUse

structure Aligned (codec : SerdeJson) (output : List OutputItem) : Prop where
  content : ∃ text blocks, blocksOf codec output = .text text :: blocks ∧ ToolsFirst blocks
  placed : Placed (callAt output) ((blocksOf codec output).zipIdx.drop 1)
  empty : ∀ text ∈ (textsOf output).tail, text = ""

section Texts

variable {codec : SerdeJson} {output : List OutputItem}

theorem map_fst_zipIdx_drop {α : Type*} (l : List α) :
    (l.zipIdx.drop 1).map Prod.fst = l.drop 1 := by
  rw [List.map_drop, List.zipIdx_map_fst]

theorem join_eq_empty_iff (texts : List String) :
    String.join texts = "" ↔ ∀ t ∈ texts, t = "" := by
  induction texts with
  | nil => simp
  | cons text texts ih => simp [String.join_cons, String.append_eq_empty_iff, ih]

theorem join_eq_head_iff (text : String) (texts : List String) :
    String.join (text :: texts) = text ↔ ∀ t ∈ texts, t = "" := by
  rw [String.join_cons, ← join_eq_empty_iff]
  exact String.append_eq_left_iff

theorem textsOf_eq_cons {text : String} {blocks : List AnthropicContentBlock}
    (h : blocksOf codec output = .text text :: blocks) :
    ∃ texts, textsOf output = text :: texts := by
  have hfilter := filter_text_blocksOf codec output
  rw [h, List.filter_cons_of_pos (by rfl)] at hfilter
  cases htexts : textsOf output with
  | nil =>
      rw [htexts] at hfilter
      cases hfilter
  | cons text' texts =>
      rw [htexts, List.map_cons] at hfilter
      injection hfilter with hhead _
      injection hhead with heq
      exact ⟨texts, by rw [heq]⟩

/-- The blocks that the client has in the end. -/
def assembledBlocks (codec : SerdeJson) (output : List OutputItem) :
    List AnthropicContentBlock :=
  contentOf codec ((Progress.init.addItems 0 output).blocks ++
    replayed codec (callAt output) ((blocksOf codec output).zipIdx.drop 1))

theorem assembledBlocks_of_texts (codec : SerdeJson) (h : textsOf output ≠ []) :
    ∃ first after, assembledBlocks codec output =
        contentOf codec first ++ .text (String.join (textsOf output)) ::
          (contentOf codec after ++ contentOf codec (replayed codec (callAt output)
            ((blocksOf codec output).zipIdx.drop 1))) ∧
      contentOf codec first ++ contentOf codec after =
        (blocksOf codec output).filter AnthropicContentBlock.isToolUse ∧
      ∀ text blocks, blocksOf codec output = .text text :: blocks → first = [] := by
  obtain ⟨first, after, hadd, hcalls, hfirst⟩ :=
    Progress.addItems_of_texts codec [] 0 h
  refine ⟨first, after, ?_, ?_, hfirst⟩
  · rw [assembledBlocks, Progress.init, hadd]
    simp [Progress.blocks, contentOf, AssembledBlock.toContent]
  · rw [← callBlocks_toContent codec 0 output, ← hcalls]
    simp [contentOf]

theorem assembledBlocks_of_aligned (h : Aligned codec output) :
    assembledBlocks codec output = blocksOf codec output := by
  obtain ⟨⟨text, blocks, hblocks, hsorted⟩, hplaced, hempty⟩ := h
  obtain ⟨texts, htexts⟩ := textsOf_eq_cons hblocks
  obtain ⟨first, after, hassembled, hcalls, hfirst⟩ :=
    assembledBlocks_of_texts codec (show textsOf output ≠ [] by simp [htexts])
  rw [hfirst text blocks hblocks] at hassembled hcalls
  have hjoin : String.join (textsOf output) = text := by
    rw [htexts, join_eq_head_iff]
    simpa [htexts] using hempty
  have hafter : contentOf codec after = blocks.filter AnthropicContentBlock.isToolUse := by
    rw [hblocks, List.filter_cons_of_neg (by simp [AnthropicContentBlock.isToolUse])] at hcalls
    simpa [contentOf] using hcalls
  rw [hassembled, hjoin, hafter, contentOf_replayed_of_placed hplaced, map_fst_zipIdx_drop,
    hblocks, List.drop_one, List.tail_cons, ← hsorted]
  rfl

theorem countP_text_of_tools {blocks : List AnthropicContentBlock}
    (h : ∀ block ∈ blocks, block.isToolUse = true) :
    blocks.countP (fun block => !block.isToolUse) = 0 := by
  rw [List.countP_eq_zero]
  intro block hblock
  simp [h block hblock]

/-- One text block is streamed, so a content that begins with a call would have one text
block more. -/
theorem head_of_assembledBlocks (h : textsOf output ≠ [])
    (heq : assembledBlocks codec output = blocksOf codec output) :
    ∃ text blocks, blocksOf codec output = .text text :: blocks := by
  obtain ⟨first, after, hassembled, hcalls, -⟩ := assembledBlocks_of_texts codec h
  have htools : ∀ block ∈ contentOf codec first ++ contentOf codec after,
      block.isToolUse = true := by
    intro block hblock
    rw [hcalls] at hblock
    exact (List.mem_filter.1 hblock).2
  have hfirst := countP_text_of_tools fun block hb => htools block (List.mem_append_left _ hb)
  have hafter := countP_text_of_tools fun block hb => htools block (List.mem_append_right _ hb)
  have hcount := congrArg (List.countP fun block => !block.isToolUse)
    (hassembled.symm.trans heq)
  rw [List.countP_append, List.countP_cons_of_pos (by rfl), List.countP_append, hfirst, hafter,
    countP_text_replayed, map_fst_zipIdx_drop] at hcount
  cases hblocks : blocksOf codec output with
  | nil =>
      rw [hblocks] at hcount
      simp at hcount
  | cons block blocks =>
      cases block with
      | text text => exact ⟨text, blocks, rfl⟩
      | toolUse id name input =>
          rw [hblocks, List.drop_one, List.tail_cons,
            List.countP_cons_of_neg (by simp [AnthropicContentBlock.isToolUse])] at hcount
          omega

theorem aligned_of_assembledBlocks (h : textsOf output ≠ [])
    (heq : assembledBlocks codec output = blocksOf codec output) : Aligned codec output := by
  obtain ⟨text, blocks, hblocks⟩ := head_of_assembledBlocks h heq
  obtain ⟨texts, htexts⟩ := textsOf_eq_cons hblocks
  obtain ⟨first, after, hassembled, hcalls, hfirst⟩ := assembledBlocks_of_texts codec h
  rw [hfirst text blocks hblocks] at hassembled hcalls
  rw [hassembled, hblocks] at heq
  obtain ⟨hjoin, hrest⟩ : String.join (textsOf output) = text ∧
      contentOf codec after ++ contentOf codec (replayed codec (callAt output)
        (((AnthropicContentBlock.text text) :: blocks).zipIdx.drop 1)) = blocks := by
    simpa [contentOf] using heq
  have hafter : contentOf codec after = blocks.filter AnthropicContentBlock.isToolUse := by
    rw [hblocks, List.filter_cons_of_neg (by simp [AnthropicContentBlock.isToolUse])] at hcalls
    simpa [contentOf] using hcalls
  -- The calls were all streamed, so none of them comes once more.
  have hplaced : Placed (callAt output)
      ((AnthropicContentBlock.text text :: blocks).zipIdx.drop 1) := by
    apply placed_of_countP codec
    have hcount := congrArg (List.countP AnthropicContentBlock.isToolUse) hrest
    rw [List.countP_append, hafter, List.countP_filter] at hcount
    simpa using hcount
  refine ⟨⟨text, blocks, hblocks, ?_⟩, hblocks ▸ hplaced, ?_⟩
  · rw [contentOf_replayed_of_placed hplaced, map_fst_zipIdx_drop, hafter] at hrest
    exact hrest.symm
  · rw [htexts, join_eq_head_iff] at hjoin
    rw [htexts]
    exact hjoin

end Texts

/-! ## Places of the calls -/

theorem callsFirst_iff (output : List OutputItem) :
    CallsFirst output ↔ ∀ i < callCount output, callAt output i = true := by
  induction output with
  | nil => simp [CallsFirst, callCount]
  | cons item output ih =>
      cases hcall : item.isCall with
      | true =>
          have hcount : callCount (item :: output) = callCount output + 1 :=
            List.countP_cons_of_pos hcall
          have hfirst : CallsFirst (item :: output) ↔ CallsFirst output := by
            rw [CallsFirst, List.dropWhile_cons_of_pos hcall, CallsFirst]
          rw [hfirst, ih, hcount]
          constructor
          · intro h i hi
            cases i with
            | zero => simp [callAt, hcall]
            | succ i => exact h i (by omega)
          · exact fun h i hi => h (i + 1) (by omega)
      | false =>
          have hneg : ¬ item.isCall = true := by simp [hcall]
          rw [CallsFirst, List.dropWhile_cons_of_neg hneg]
          have hzero : (∀ other ∈ item :: output, other.isCall = false) ↔
              callCount (item :: output) = 0 := by
            rw [callCount, List.countP_eq_zero]
            simp only [Bool.not_eq_true]
          rw [hzero]
          constructor
          · intro h i hi
            omega
          · intro h
            by_contra hpos
            have hat := h 0 (Nat.pos_of_ne_zero hpos)
            simp [callAt, hcall] at hat

theorem callCount_of_callsFirst_cons {item : OutputItem} {output : List OutputItem}
    (h : CallsFirst (item :: output)) (hcall : item.isCall = false) : callCount output = 0 := by
  by_contra hpos
  have hcount : callCount (item :: output) = callCount output :=
    List.countP_cons_of_neg (by simp [hcall])
  have hat := (callsFirst_iff _).1 h 0 (by omega)
  simp [callAt, hcall] at hat

theorem placed_append_iff {tools texts : List AnthropicContentBlock}
    (htools : ∀ block ∈ tools, block.isToolUse = true)
    (htexts : ∀ block ∈ texts, block.isToolUse = false) (calls : Nat → Bool) (k : Nat) :
    Placed calls ((tools ++ texts).zipIdx k) ↔ ∀ i < tools.length, calls (k + i) = true := by
  constructor
  · intro hplaced i hi
    have hmem : (tools[i], k + i) ∈ (tools ++ texts).zipIdx k := by
      rw [List.mk_add_mem_zipIdx_iff_getElem?, List.getElem?_append_left hi]
      exact List.getElem?_eq_getElem hi
    exact hplaced _ hmem (htools _ (List.getElem_mem hi))
  · intro hcalls block hblock htool
    obtain ⟨block, j⟩ := block
    obtain ⟨hle, hget⟩ := List.mk_mem_zipIdx_iff_le_and_getElem?_sub.1 hblock
    by_cases hj : j - k < tools.length
    · have := hcalls (j - k) hj
      rwa [show k + (j - k) = j by omega] at this
    · rw [List.getElem?_append_right (Nat.le_of_not_lt hj)] at hget
      have hfalse := htexts block (List.mem_of_getElem? hget)
      rw [hfalse] at htool
      cases htool

theorem placed_zipIdx_iff {blocks : List AnthropicContentBlock} (h : ToolsFirst blocks)
    (calls : Nat → Bool) (k : Nat) :
    Placed calls (blocks.zipIdx k) ↔
      ∀ i < (blocks.filter AnthropicContentBlock.isToolUse).length, calls (k + i) = true := by
  nth_rewrite 1 [h]
  apply placed_append_iff
  · intro block hblock
    exact (List.mem_filter.1 hblock).2
  · intro block hblock
    simpa using (List.mem_filter.1 hblock).2

theorem toolsFirst_of_no_calls (codec : SerdeJson) {output : List OutputItem}
    (h : callCount output = 0) : ToolsFirst (blocksOf codec output) := by
  have hnone := length_filter_blocksOf codec output
  rw [h, List.length_eq_zero_iff] at hnone
  rw [ToolsFirst, hnone, List.nil_append, eq_comm, List.filter_eq_self]
  intro block hblock
  have hnot := List.filter_eq_nil_iff.1 hnone block hblock
  simpa using hnot

theorem toolsFirst_blocksOf (codec : SerdeJson) {output : List OutputItem}
    (h : CallsFirst output) : ToolsFirst (blocksOf codec output) := by
  induction output with
  | nil => rfl
  | cons item output ih =>
      cases hcall : item.isCall with
      | true =>
          have hrest : CallsFirst output := by
            rwa [CallsFirst, List.dropWhile_cons_of_pos hcall] at h
          obtain ⟨callId, name, arguments, rfl⟩ : ∃ callId name arguments,
              item = .functionCall callId name arguments := by
            cases item <;> simp_all [OutputItem.isCall]
          have hcons : blocksOf codec (.functionCall callId name arguments :: output) =
              .toolUse callId name (parseResponseFunctionArguments codec (.str arguments)) ::
                blocksOf codec output := rfl
          rw [ToolsFirst, hcons, List.filter_cons_of_pos rfl, List.filter_cons_of_neg (by
            simp [AnthropicContentBlock.isToolUse]), List.cons_append, ← ih hrest]
      | false =>
          apply toolsFirst_of_no_calls
          rw [callCount, List.countP_cons_of_neg (by simp [hcall])]
          exact callCount_of_callsFirst_cons h hcall

/-! ## The condition -/

section Condition

variable {codec : SerdeJson} {output : List OutputItem}

theorem callAt_succ (item : OutputItem) (i : Nat) :
    callAt (item :: output) (i + 1) = callAt output i := by
  simp [callAt]

theorem blocks_of_not_call {item : OutputItem} (h : item.isCall = false) :
    item.blocks codec = item.texts.map .text := by
  cases item with
  | message content => rfl
  | reasoning id => rfl
  | functionCall callId name arguments => cases h

theorem isCall_of_texts {item : OutputItem} (h : item.texts ≠ []) : item.isCall = false := by
  cases item with
  | message content => rfl
  | reasoning id => rfl
  | functionCall callId name arguments => exact absurd rfl h

theorem placed_drop_iff {text : String} {blocks : List AnthropicContentBlock}
    (hblocks : blocksOf codec output = .text text :: blocks) (h : ToolsFirst blocks) :
    Placed (callAt output) ((blocksOf codec output).zipIdx.drop 1) ↔
      ∀ i < callCount output, callAt output (i + 1) = true := by
  have hcount := length_filter_blocksOf codec output
  rw [hblocks, List.filter_cons_of_neg (by simp [AnthropicContentBlock.isToolUse])] at hcount
  rw [hblocks, List.zipIdx_cons, List.drop_one, List.tail_cons, placed_zipIdx_iff h, hcount]
  simp only [Nat.zero_add, Nat.add_comm 1]

theorem exists_text_cons_of_no_calls (h : textsOf output ≠ []) (hcalls : callCount output = 0) :
    ∃ text blocks, blocksOf codec output = .text text :: blocks ∧ ToolsFirst blocks := by
  have htools := toolsFirst_of_no_calls codec hcalls
  have hnone := length_filter_blocksOf codec output
  rw [hcalls, List.length_eq_zero_iff] at hnone
  rw [ToolsFirst, hnone, List.nil_append, filter_text_blocksOf] at htools
  cases htexts : textsOf output with
  | nil => exact absurd htexts h
  | cons text texts =>
      refine ⟨text, texts.map .text, by rw [htools, htexts, List.map_cons], ?_⟩
      simp [ToolsFirst, List.filter_map, AnthropicContentBlock.isToolUse, Function.comp_def]

theorem aligned_of_agreeable (h : textsOf output ≠ []) (hagree : Agreeable output) :
    Aligned codec output := by
  obtain ⟨hempty, hcalls | ⟨hnone, -⟩ | ⟨item, items, rfl, hone, hfirst⟩⟩ := hagree
  · obtain ⟨text, blocks, hblocks, htools⟩ := exists_text_cons_of_no_calls h hcalls
    refine ⟨⟨text, blocks, hblocks, htools⟩, (placed_drop_iff hblocks htools).2 ?_, hempty⟩
    intro i hi
    omega
  · exact absurd hnone h
  · obtain ⟨text, htexts⟩ := List.length_eq_one_iff.1 hone
    have hcall := isCall_of_texts (show item.texts ≠ [] by simp [htexts])
    have hblocks : blocksOf codec (item :: items) = .text text :: blocksOf codec items := by
      rw [blocksOf, List.flatMap_cons, blocks_of_not_call hcall, htexts]
      rfl
    have htools := toolsFirst_blocksOf codec hfirst
    refine ⟨⟨text, _, hblocks, htools⟩, (placed_drop_iff hblocks htools).2 ?_, hempty⟩
    intro i hi
    rw [callCount, List.countP_cons_of_neg (by simp [hcall])] at hi
    rw [callAt_succ]
    exact (callsFirst_iff items).1 hfirst i hi

theorem ToolsFirst.tail {text : String} {blocks : List AnthropicContentBlock}
    (h : ToolsFirst (.text text :: blocks)) :
    blocks.filter AnthropicContentBlock.isToolUse = [] := by
  rw [ToolsFirst, List.filter_cons_of_neg (by simp [AnthropicContentBlock.isToolUse])] at h
  cases hfilter : blocks.filter AnthropicContentBlock.isToolUse with
  | nil => rfl
  | cons block rest =>
      rw [hfilter, List.cons_append] at h
      have hmem : block ∈ blocks.filter AnthropicContentBlock.isToolUse := by simp [hfilter]
      have htool := (List.mem_filter.1 hmem).2
      rw [← (List.cons.inj h).1] at htool
      cases htool

theorem agreeable_of_aligned (h : Aligned codec output) : Agreeable output := by
  obtain ⟨⟨text, blocks, hblocks, htools⟩, hplaced, hempty⟩ := h
  have hcalls := (placed_drop_iff hblocks htools).1 hplaced
  refine ⟨hempty, ?_⟩
  by_cases hzero : callCount output = 0
  · exact .inl hzero
  cases output with
  | nil => exact absurd rfl hzero
  | cons item items =>
      cases hcall : item.isCall with
      | true =>
          exfalso
          cases item with
          | functionCall callId name arguments => cases hblocks
          | _ => cases hcall
      | false =>
          have hcount : callCount (item :: items) = callCount items :=
            List.countP_cons_of_neg (by simp [hcall])
          have hfirst : CallsFirst items := by
            rw [callsFirst_iff]
            intro i hi
            rw [← callAt_succ item]
            exact hcalls i (by omega)
          refine .inr (.inr ⟨item, items, rfl, ?_, hfirst⟩)
          have happend : item.texts.map .text ++ blocksOf codec items = .text text :: blocks := by
            rw [← blocks_of_not_call hcall]
            exact hblocks
          have hsome : (blocksOf codec items).filter AnthropicContentBlock.isToolUse ≠ [] := by
            intro hnone
            have hlength := length_filter_blocksOf codec items
            rw [hnone, List.length_nil] at hlength
            omega
          -- A call does not stand after a text that follows another item.
          match htexts : item.texts with
          | [] =>
              rw [htexts, List.map_nil, List.nil_append] at happend
              have hrest := toolsFirst_blocksOf codec hfirst
              rw [happend] at hrest hsome
              exact absurd hrest.tail (by
                rwa [List.filter_cons_of_neg (by simp [AnthropicContentBlock.isToolUse])]
                  at hsome)
          | [_] => rfl
          | text₁ :: text₂ :: texts =>
              rw [htexts] at happend
              have hrest : blocks = .text text₂ :: (texts.map .text ++ blocksOf codec items) :=
                (List.cons.inj happend).2.symm
              rw [hrest] at htools
              have hnone := htools.tail
              rw [List.filter_append, List.append_eq_nil_iff] at hnone
              exact absurd hnone.2 hsome

end Condition

/-! ## Agreement -/

section Agreement

variable (codec : SerdeJson) (ids : GeneratedIds)

/-- The content that a client of the stream has in the end. -/
def announcedContent (response : UpstreamResponse) : List AnthropicContentBlock :=
  contentOf codec ((Progress.init.addItems 0 response.output).blocks ++
    replayed codec (callAt response.output) (remainingContent
      (Progress.init.addItems 0 response.output)
      (anthropicContentFromResponsesOutput codec ids response.toJson)))

variable {codec ids} {response : UpstreamResponse}

theorem announcedContent_of_no_texts (h : textsOf response.output = []) :
    announcedContent codec ids response =
      (blocksOf codec response.output).filter AnthropicContentBlock.isToolUse ++
        contentOf codec (replayed codec (callAt response.output)
          (anthropicContentFromResponsesOutput codec ids response.toJson).zipIdx) := by
  rw [announcedContent, Progress.init, Progress.addItems_of_no_texts [] 0 h,
    ← callBlocks_toContent codec 0 response.output]
  simp [contentOf, Progress.blocks, remainingContent]

theorem announcedContent_of_texts (ids : GeneratedIds)
    (h : textsOf response.output ≠ []) :
    announcedContent codec ids response = assembledBlocks codec response.output ∧
      anthropicContentFromResponsesOutput codec ids response.toJson =
        blocksOf codec response.output := by
  have hblocks : (blocksOf codec response.output).isEmpty = false := by
    rw [List.isEmpty_eq_false_iff]
    intro hempty
    have htexts := filter_text_blocksOf codec response.output
    rw [hempty] at htexts
    exact h (List.map_eq_nil_iff.1 htexts.symm)
  have hcontent : anthropicContentFromResponsesOutput codec ids response.toJson =
      blocksOf codec response.output := by
    rw [anthropicContent_toJson, hblocks, if_neg Bool.false_ne_true]
  obtain ⟨first, after, hadd, -⟩ := Progress.addItems_of_texts codec [] 0 h
  refine ⟨?_, hcontent⟩
  rw [announcedContent, hcontent, assembledBlocks, Progress.init, hadd]
  rfl

/-- Without texts the calls are the content, and those at other places come once more. -/
theorem announcedContent_eq_of_no_texts (h : textsOf response.output = []) :
    announcedContent codec ids response =
        anthropicContentFromResponsesOutput codec ids response.toJson ↔
      CallsFirst response.output := by
  have hcount := length_filter_blocksOf codec response.output
  have htexts := filter_text_blocksOf codec response.output
  rw [h, List.map_nil, List.filter_eq_nil_iff] at htexts
  have hall : (blocksOf codec response.output).filter AnthropicContentBlock.isToolUse =
      blocksOf codec response.output := by
    rw [List.filter_eq_self]
    intro block hblock
    simpa using htexts block hblock
  rw [hall] at hcount
  rw [announcedContent_of_no_texts h, hall, anthropicContent_toJson, callsFirst_iff, ← hcount]
  cases hblocks : blocksOf codec response.output with
  | nil =>
      -- The text of the whole output is a block of its own.
      have hplaced : ∀ content : Option String, contentOf codec (replayed codec
          (callAt response.output) ((content.map AnthropicContentBlock.text).toList).zipIdx) =
          (content.map AnthropicContentBlock.text).toList := by
        intro content
        cases content <;> rfl
      simp [hplaced]
  | cons block blocks =>
      rw [List.isEmpty_cons, if_neg Bool.false_ne_true, ← hblocks, List.append_right_eq_self]
      have htools : ToolsFirst (blocksOf codec response.output) := by
        rw [ToolsFirst, hall, eq_comm, List.append_right_eq_self, List.filter_eq_nil_iff]
        exact htexts
      have hplaced := placed_zipIdx_iff htools (callAt response.output) 0
      simp only [hall, Nat.zero_add] at hplaced
      rw [← hplaced]
      constructor
      · intro hnil
        exact placed_of_countP codec (by rw [hnil]; rfl)
      · intro hplaced
        rw [contentOf_replayed_of_placed hplaced, List.zipIdx_map_fst, List.filter_eq_nil_iff]
        exact htexts

theorem agreeable_of_no_texts {output : List OutputItem} (h : textsOf output = []) :
    Agreeable output ↔ CallsFirst output := by
  constructor
  · rintro ⟨-, hzero | ⟨-, hfirst⟩ | ⟨item, items, rfl, hone, -⟩⟩
    · rw [callsFirst_iff]
      intro i hi
      omega
    · exact hfirst
    · simp only [textsOf, List.flatMap_cons, List.append_eq_nil_iff] at h
      rw [h.1] at hone
      cases hone
  · intro hfirst
    exact ⟨by simp [h], .inr (.inl ⟨h, hfirst⟩)⟩

theorem announcedContent_eq_iff (codec : SerdeJson) (ids : GeneratedIds)
    (response : UpstreamResponse) :
    announcedContent codec ids response =
        anthropicContentFromResponsesOutput codec ids response.toJson ↔
      Agreeable response.output := by
  by_cases htexts : textsOf response.output = []
  · rw [announcedContent_eq_of_no_texts htexts, agreeable_of_no_texts htexts]
  · obtain ⟨hannounced, hcontent⟩ := announcedContent_of_texts ids htexts
    rw [hannounced, hcontent]
    constructor
    · intro heq
      exact agreeable_of_aligned (aligned_of_assembledBlocks htexts heq)
    · intro hagree
      exact assembledBlocks_of_aligned (aligned_of_agreeable htexts hagree)

variable (codec ids)

theorem assembledContent_announcement (splitting : Splitting) (created : Json)
    (response : UpstreamResponse) (requestedModel : String)
    (contextManagement : Option Json) :
    assembledContent codec ((new requestedModel contextManagement).translateEvents codec ids
      (announcement splitting created response)) = announcedContent codec ids response := by
  have hassembled := (assembled_announcement codec ids splitting created response
    requestedModel contextManagement).1
  rw [assembledContent, hassembled, List.reverse_reverse]
  rfl

theorem anthropicContent_toJson_congr (ids' : GeneratedIds) (response : UpstreamResponse) :
    anthropicContentFromResponsesOutput codec ids' response.toJson =
      anthropicContentFromResponsesOutput codec ids response.toJson := by
  rw [anthropicContent_toJson, anthropicContent_toJson]

/-- A client of the stream has the content and the stop reason of the translated response
if and only if the texts and the calls stand as the translator counts them. -/
theorem announcement_agrees_iff (ids' : GeneratedIds) (splitting : Splitting) (created : Json)
    (response : UpstreamResponse) (requestedModel : String)
    (contextManagement : Option Json) :
    let events := (new requestedModel contextManagement).translateEvents codec ids
      (announcement splitting created response)
    let message := translateResponsesJsonToAnthropicMessage codec ids' response.toJson
      requestedModel
    assembledContent codec events = message.content ∧
        assembledStopReason events = some message.stopReason ↔
      Agreeable response.output := by
  intro events message
  have hreason : assembledStopReason events = some message.stopReason := by
    have hstop := (assembled_announcement codec ids splitting created response requestedModel
      contextManagement).2
    have hsame : message.stopReason = anthropicStopReason codec ids response.toJson := by
      show anthropicStopReason codec ids' response.toJson = _
      rw [anthropicStopReason, anthropicContent_toJson_congr codec ids ids']
      rfl
    rw [hsame]
    exact hstop
  have hmessage : message.content =
      anthropicContentFromResponsesOutput codec ids response.toJson :=
    anthropicContent_toJson_congr codec ids ids' response
  rw [and_iff_left hreason, hmessage, ← announcedContent_eq_iff codec ids,
    ← assembledContent_announcement codec ids splitting created response requestedModel
      contextManagement]

end Agreement

/-! ## A call after reasoning -/

def reasoningCall : UpstreamResponse where
  fields := [("id", .str "resp_1"), ("status", .str "completed")]
  output := [.reasoning "rs_1", .functionCall "call_1" "lookup" "{}"]
  output_length := by decide

def wholeSplitting : Splitting := ⟨fun s => [s], by simp, by simp⟩

theorem reasoningCall_not_agreeable : ¬ Agreeable reasoningCall.output := by
  rintro ⟨-, hzero | ⟨-, hfirst⟩ | ⟨item, items, houtput, hone, -⟩⟩
  · cases hzero
  · have hcall := hfirst (.functionCall "call_1" "lookup" "{}") (by decide)
    cases hcall
  · obtain ⟨rfl, -⟩ := List.cons.inj houtput
    cases hone

/-- The call stands at the place 1 of the output and at the place 0 of the content, where
the translator does not find it. -/
theorem announcement_not_agrees :
    ¬ ∀ (codec : SerdeJson) (ids ids' : GeneratedIds) (splitting : Splitting) (created : Json)
      (response : UpstreamResponse) (requestedModel : String)
      (contextManagement : Option Json),
      let events := (new requestedModel contextManagement).translateEvents codec ids
        (announcement splitting created response)
      let message := translateResponsesJsonToAnthropicMessage codec ids' response.toJson
        requestedModel
      assembledContent codec events = message.content ∧
        assembledStopReason events = some message.stopReason := by
  intro h
  let codec := SerdeJson.ofTable [("{}", .obj [])]
  let ids : GeneratedIds := ⟨"msg_1", fun _ => "toolu_1"⟩
  have hcontent := (h codec ids ids wholeSplitting (.obj []) reasoningCall "claude" none).1
  rw [assembledContent_announcement] at hcontent
  exact reasoningCall_not_agreeable ((announcedContent_eq_iff codec ids _).1 hcontent)

end CodexPool
