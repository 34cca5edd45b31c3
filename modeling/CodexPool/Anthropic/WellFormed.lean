import CodexPool.Anthropic.SseTranslator
import CodexPool.Lib.BlockStream
import CodexPool.Lib.Machine
import Mathlib.Data.List.Sigma

/-!
# Well-formed streams

The translator keeps its text block at index 0 and a tool block at the place of the call
in the output, and it looks at neither when it opens the other. A payload is in order
when it does not bring the two together, brings nothing for a tool block that was
stopped, and completes a response whose content matches the blocks that were started.
A stream of such payloads is translated into a well-formed one.
-/

namespace CodexPool

open BlockStream Machine

inductive AnthropicBlockKind where
  | text
  | toolUse
deriving DecidableEq

def AnthropicBlockHead.kind : AnthropicBlockHead → AnthropicBlockKind
  | .text => .text
  | .toolUse .. => .toolUse

def AnthropicDelta.kind : AnthropicDelta → AnthropicBlockKind
  | .textDelta _ => .text
  | .inputJsonDelta _ => .toolUse

/-- What an event is in a stream of blocks. -/
def AnthropicEvent.shape : AnthropicEvent → Event AnthropicBlockKind
  | .messageStart .. => .start
  | .contentBlockStart index contentBlock => .openBlock index contentBlock.kind
  | .contentBlockDelta index delta => .delta index delta.kind
  | .contentBlockStop index => .closeBlock index
  | .messageDelta .. => .summary
  | .messageStop => .stop
  | .error .. => .error

/-- The events are read one after the other. -/
def Reads (s : State AnthropicBlockKind) (events : List AnthropicEvent)
    (s' : State AnthropicBlockKind) : Prop :=
  acceptAll s (events.map AnthropicEvent.shape) = some s'

theorem Reads.nil (s : State AnthropicBlockKind) : Reads s [] s := rfl

variable {s : State AnthropicBlockKind}

theorem Reads.append {s' s'' : State AnthropicBlockKind} {events events' : List AnthropicEvent}
    (h : Reads s events s') (h' : Reads s' events' s'') : Reads s (events ++ events') s'' := by
  rw [Reads, List.map_append, acceptAll_append h]
  exact h'

theorem Reads.single {s' : State AnthropicBlockKind} {event : AnthropicEvent}
    (h : accept s event.shape = some s') : Reads s [event] s' := by
  simp [Reads, acceptAll, h]

theorem Reads.contentBlockDelta {index : Nat} {delta : AnthropicDelta} (hrun : s.running = true)
    (hmem : (index, delta.kind) ∈ s.opened) :
    Reads s [.contentBlockDelta index delta] s := by
  refine .single ?_
  simp [AnthropicEvent.shape, accept, hrun, hmem]

theorem Reads.contentBlockStop {index : Nat}
    {k : AnthropicBlockKind} (hrun : s.running = true) (hmem : (index, k) ∈ s.opened) :
    Reads s [.contentBlockStop index]
      { s with opened := s.opened.filter fun block => block.1 ≠ index } := by
  have hmem' : index ∈ s.opened.map Prod.fst := List.mem_map_of_mem hmem
  refine .single ?_
  simp only [AnthropicEvent.shape, accept, hrun, hmem', and_self, if_true]

namespace ToolUseStreamState

@[simp] theorem started_named (state : ToolUseStreamState) (item : Json) :
    (state.named item).started = state.started := rfl

@[simp] theorem stopped_named (state : ToolUseStreamState) (item : Json) :
    (state.named item).stopped = state.stopped := rfl

end ToolUseStreamState

/-! ## Payloads in order -/

namespace AnthropicSseTranslator

def StartInOrder (t : AnthropicSseTranslator) (index : Nat) : Prop :=
  t.toolUseBlocks index = none → t.textBlockStarted = true → index ≠ 0

def CloseInOrder (t : AnthropicSseTranslator) (index : Nat)
    (finalArguments : Option String) : Prop :=
  t.StartInOrder index ∧
    ∀ state ∈ t.toolUseBlocks index, state.stopped = true → state.deltaEmitted = false →
      finalArguments.filter (· ≠ "") = none

/-- The content of the completed response has a tool block wherever one was started, and
every block that is still open has its place in it. -/
def CompletionInOrder (t : AnthropicSseTranslator) (content : List AnthropicContentBlock) :
    Prop :=
  (∀ block ∈ t.remainingBlocks content, ∀ state ∈ t.toolUseBlocks block.2,
    block.1.isToolUse = true ∧ (state.stopped = true → state.deltaEmitted = true)) ∧
  ∀ index, ∀ state ∈ t.toolUseBlocks index, state.stopped = false →
    index ∈ (t.remainingBlocks content).map Prod.snd

variable (codec : SerdeJson) (ids : GeneratedIds)

def ValueInOrder (t : AnthropicSseTranslator) (value : Json) : Prop :=
  match (value.getStr "type").getD "" with
  | "response.output_text.delta" => t.textBlockStarted = false → t.toolUseBlocks 0 = none
  | "response.output_item.added" =>
    (functionCallItem value).isSome → t.StartInOrder (t.outputIndex value)
  | "response.function_call_arguments.delta" =>
    t.StartInOrder (t.outputIndex value) ∧
      ∀ state ∈ t.toolUseBlocks (t.outputIndex value), state.stopped = true →
        value.getStr "delta" = none
  | "response.function_call_arguments.done" =>
    t.CloseInOrder (t.outputIndex value) (value.getStr "arguments")
  | "response.output_item.done" =>
    ∀ item ∈ functionCallItem value,
      t.CloseInOrder (t.outputIndex value) (item.getStr "arguments")
  | "response.completed" =>
    t.CompletionInOrder (anthropicContentFromResponsesOutput codec ids (responseOf value))
  | _ => True

def FrameInOrder (t : AnthropicSseTranslator) (payload : Bytes) : Prop :=
  t.terminalEventSeen = false → payload ≠ Bytes.ofAscii "[DONE]" →
    ∀ value ∈ codec.fromSlice payload, t.ValueInOrder codec ids value

def afterFrame (t : AnthropicSseTranslator) (payload : Bytes) : AnthropicSseTranslator :=
  (t.translateFrame codec ids payload).1

/-! ## The translator and what was read of its events -/

def OpenAt (t : AnthropicSseTranslator) (index : Nat) : AnthropicBlockKind → Prop
  | .text => index = 0 ∧ t.textBlockStarted = true
  | .toolUse => ∃ state, t.toolUseBlocks index = some state ∧ state.stopped = false

structure InStep (t : AnthropicSseTranslator) (s : State AnthropicBlockKind) : Prop where
  started : s.started = t.messageStarted
  summarized : s.summarized = false
  ended : s.ended = false
  opened : ∀ i k, (i, k) ∈ s.opened ↔ t.OpenAt i k
  used : ∀ i, i ∈ s.used ↔ i = 0 ∧ t.textBlockStarted = true ∨ (t.toolUseBlocks i).isSome
  toolStarted : ∀ i state, t.toolUseBlocks i = some state → state.started = true
  apart : t.textBlockStarted = true → t.toolUseBlocks 0 = none

variable {codec ids} {t : AnthropicSseTranslator} {s : State AnthropicBlockKind}

theorem InStep.running (h : InStep t s) (hm : t.messageStarted = true) :
    s.running = true := by
  simp [State.running, h.started, h.summarized, h.ended, hm]

@[simp] theorem toolUseBlocks_ensureMessageStart (response : Json) :
    (t.ensureMessageStart ids response).1.toolUseBlocks = t.toolUseBlocks := by
  unfold ensureMessageStart
  split <;> rfl

@[simp] theorem textBlockStarted_ensureMessageStart (response : Json) :
    (t.ensureMessageStart ids response).1.textBlockStarted = t.textBlockStarted := by
  unfold ensureMessageStart
  split <;> rfl

@[simp] theorem terminalEventSeen_ensureMessageStart (response : Json) :
    (t.ensureMessageStart ids response).1.terminalEventSeen = t.terminalEventSeen := by
  unfold ensureMessageStart
  split <;> rfl

@[simp] theorem messageStarted_ensureMessageStart (response : Json) :
    (t.ensureMessageStart ids response).1.messageStarted = true := by
  unfold ensureMessageStart
  split
  · assumption
  · rfl

theorem InStep.ensureMessageStart (h : InStep t s) (ids : GeneratedIds) (response : Json) :
    ∃ s', Reads s (t.ensureMessageStart ids response).2 s' ∧
      InStep (t.ensureMessageStart ids response).1 s' := by
  unfold AnthropicSseTranslator.ensureMessageStart
  split
  · exact ⟨s, .nil s, h⟩
  · rename_i hm
    refine ⟨{ s with started := true }, .single ?_, ?_⟩
    · simp [AnthropicEvent.shape, accept, h.started, h.ended, hm]
    · exact ⟨rfl, h.summarized, h.ended, h.opened, h.used, h.toolStarted, h.apart⟩

/-! ### Tool blocks -/

section ToolBlock

variable {index : Nat} {state : ToolUseStreamState}

@[simp] theorem toolUseBlocks_setToolUseBlock (i : Nat) :
    (t.setToolUseBlock index state).toolUseBlocks i =
      if i = index then some state else t.toolUseBlocks i := by
  simp [setToolUseBlock, Function.update_apply]

theorem toolUseBlocks_setToolUseBlock_self :
    (t.setToolUseBlock index state).toolUseBlocks index = some state := by
  rw [toolUseBlocks_setToolUseBlock, if_pos rfl]

@[simp] theorem textBlockStarted_setToolUseBlock :
    (t.setToolUseBlock index state).textBlockStarted = t.textBlockStarted := rfl

@[simp] theorem messageStarted_setToolUseBlock :
    (t.setToolUseBlock index state).messageStarted = t.messageStarted := rfl

@[simp] theorem terminalEventSeen_setToolUseBlock :
    (t.setToolUseBlock index state).terminalEventSeen = t.terminalEventSeen := rfl

/-- A tool block that is set, and what is read of it. -/
theorem InStep.setToolUseBlock (h : InStep t s) {s' : State AnthropicBlockKind}
    (hstarted : s'.started = s.started) (hsummarized : s'.summarized = s.summarized)
    (hended : s'.ended = s.ended) (htext : t.textBlockStarted = true → index ≠ 0)
    (hstart : state.started = true)
    (hopened : ∀ i k, (i, k) ∈ s'.opened ↔
      if i = index then k = .toolUse ∧ state.stopped = false else (i, k) ∈ s.opened)
    (hused : ∀ i, i ∈ s'.used ↔ i = index ∨ i ∈ s.used) :
    InStep (t.setToolUseBlock index state) s' where
  started := hstarted.trans h.started
  summarized := hsummarized.trans h.summarized
  ended := hended.trans h.ended
  opened i k := by
    rw [hopened i k]
    by_cases hi : i = index
    · subst hi
      cases k with
      | text =>
          simp only [if_true, reduceCtorEq, false_and, OpenAt, false_iff, not_and]
          exact fun h0 ht => htext ht h0
      | toolUse => simp [OpenAt]
    · rw [if_neg hi, h.opened i k]
      cases k with
      | text => rfl
      | toolUse => simp [OpenAt, hi]
  used i := by
    rw [hused i, h.used i]
    by_cases hi : i = index
    · subst hi
      simp
    · simp [hi]
  toolStarted i st hst := by
    by_cases hi : i = index
    · subst hi
      simp only [toolUseBlocks_setToolUseBlock, if_true, Option.some.injEq] at hst
      rw [← hst, hstart]
    · simp only [toolUseBlocks_setToolUseBlock, if_neg hi] at hst
      exact h.toolStarted i st hst
  apart ht := by simp [(htext ht).symm, h.apart ht]

section Present

variable {state' : ToolUseStreamState}

theorem InStep.index_ne_zero (h : InStep t s) (hstate : t.toolUseBlocks index = some state') :
    t.textBlockStarted = true → index ≠ 0 := by
  rintro ht rfl
  rw [h.apart ht] at hstate
  cases hstate

theorem InStep.mem_used (h : InStep t s) (hstate : t.toolUseBlocks index = some state') :
    index ∈ s.used :=
  (h.used index).2 (.inr (by rw [hstate]; rfl))

theorem InStep.mem_opened (h : InStep t s) (hstate : t.toolUseBlocks index = some state')
    (k : AnthropicBlockKind) :
    (index, k) ∈ s.opened ↔ k = .toolUse ∧ state'.stopped = false := by
  rw [h.opened index k]
  cases k with
  | text =>
      simp only [OpenAt, reduceCtorEq, false_and, iff_false, not_and]
      exact fun h0 ht => h.index_ne_zero hstate ht h0
  | toolUse => simp [OpenAt, hstate]

theorem InStep.keepToolUseBlock (h : InStep t s)
    (hstate : t.toolUseBlocks index = some state') (hstart : state.started = true)
    (hstop : state.stopped = state'.stopped) :
    InStep (t.setToolUseBlock index state) s := by
  refine h.setToolUseBlock rfl rfl rfl (h.index_ne_zero hstate) hstart (fun i k => ?_)
    fun i => ?_
  · split
    · subst i
      rw [h.mem_opened hstate, hstop]
    · rfl
  · constructor
    · exact .inr
    · rintro (rfl | hi)
      · exact h.mem_used hstate
      · exact hi

theorem InStep.stopToolUseBlock (h : InStep t s) (hrun : s.running = true)
    (hstate : t.toolUseBlocks index = some state') (hstop : state'.stopped = false)
    (state : ToolUseStreamState) (hstart : state.started = true)
    (hstopped : state.stopped = true) :
    ∃ s', Reads s [.contentBlockStop index] s' ∧
      InStep (t.setToolUseBlock index state) s' := by
  have hmem := (h.mem_opened hstate .toolUse).2 ⟨rfl, hstop⟩
  refine ⟨_, .contentBlockStop hrun hmem,
    h.setToolUseBlock rfl rfl rfl (h.index_ne_zero hstate) hstart (fun i k => ?_)
      fun i => ?_⟩
  · rw [List.mem_filter]
    by_cases hi : i = index <;> simp [hi, hstopped]
  · constructor
    · exact .inr
    · rintro (rfl | hi)
      · exact h.mem_used hstate
      · exact hi

end Present

theorem InStep.openToolUseBlock (h : InStep t s) (hrun : s.running = true)
    (hnone : t.toolUseBlocks index = none)
    (htext : t.textBlockStarted = true → index ≠ 0) (state : ToolUseStreamState)
    (hstart : state.started = true) (hstop : state.stopped = false) (id name : String) :
    ∃ s', Reads s [.contentBlockStart index (.toolUse id name)] s' ∧
      InStep (t.setToolUseBlock index state) s' := by
  have hfresh : index ∉ s.used := by
    rw [h.used index, hnone]
    rintro (⟨h0, ht⟩ | hsome)
    · exact htext ht h0
    · cases hsome
  have hclosed : ∀ k, (index, k) ∉ s.opened := by
    intro k hmem
    cases k with
    | text =>
        obtain ⟨h0, ht⟩ := (h.opened index .text).1 hmem
        exact htext ht h0
    | toolUse =>
        obtain ⟨state', hstate', -⟩ := (h.opened index .toolUse).1 hmem
        rw [hnone] at hstate'
        cases hstate'
  refine ⟨{ s with
    opened := (index, .toolUse) :: s.opened
    used := index :: s.used }, .single ?_, ?_⟩
  · simp [AnthropicEvent.shape, AnthropicBlockHead.kind, accept, hrun, hfresh]
  · refine h.setToolUseBlock rfl rfl rfl htext hstart (fun i k => ?_) fun i => List.mem_cons
    rw [List.mem_cons, Prod.mk.injEq]
    by_cases hi : i = index
    · subst hi
      simp [hclosed, hstop]
    · simp [hi]

/-- The block is there afterwards, as far as it was before. -/
theorem InStep.ensureToolUseBlockStarted (h : InStep t s)
    (hin : t.StartInOrder index) (ids : GeneratedIds) (item response : Json) :
    ∃ s' state, Reads s (t.ensureToolUseBlockStarted ids index item response).2 s' ∧
      InStep (t.ensureToolUseBlockStarted ids index item response).1 s' ∧
      s'.running = true ∧
      (t.ensureToolUseBlockStarted ids index item response).1.toolUseBlocks index =
        some state ∧
      state.stopped = ((t.toolUseBlocks index).getD .default).stopped ∧
      state.deltaEmitted = ((t.toolUseBlocks index).getD .default).deltaEmitted := by
  obtain ⟨s₁, hread₁, h₁⟩ := h.ensureMessageStart ids response
  have hrun₁ : s₁.running = true := h₁.running (by simp)
  simp only [AnthropicSseTranslator.ensureToolUseBlockStarted]
  cases hstate : t.toolUseBlocks index with
  | none =>
      have hstate₁ : (t.ensureMessageStart ids response).1.toolUseBlocks index = none := by
        simp [hstate]
      simp only [hstate₁, Option.getD_none, ToolUseStreamState.started_named,
        ToolUseStreamState.stopped_named, ToolUseStreamState.default, Bool.or_self,
        Bool.false_eq_true, if_false]
      obtain ⟨s₂, hread₂, h₂⟩ := h₁.openToolUseBlock hrun₁ hstate₁ (by simpa using hin hstate)
        { (ToolUseStreamState.default.named item) with started := true } rfl rfl
        (ToolUseStreamState.default.named item).id (ToolUseStreamState.default.named item).name
      exact ⟨s₂, { (ToolUseStreamState.default.named item) with started := true },
        hread₁.append hread₂,
        ⟨h₂.started, h₂.summarized, h₂.ended, h₂.opened, h₂.used, h₂.toolStarted, h₂.apart⟩,
        h₂.running (by simp), toolUseBlocks_setToolUseBlock_self, rfl, rfl⟩
  | some state =>
      have hstate₁ :
          (t.ensureMessageStart ids response).1.toolUseBlocks index = some state := by
        simp [hstate]
      have hstarted := h.toolStarted index state hstate
      simp only [hstate₁, Option.getD_some, ToolUseStreamState.started_named, hstarted,
        Bool.true_or, if_true]
      exact ⟨s₁, state.named item, hread₁, h₁.keepToolUseBlock hstate₁ hstarted rfl, hrun₁,
        toolUseBlocks_setToolUseBlock_self, rfl, rfl⟩

@[simp] theorem started_emitFinalArguments (finalArguments : Option String) :
    (emitFinalArguments index state finalArguments).1.started = state.started := by
  unfold emitFinalArguments
  split <;> rfl

@[simp] theorem stopped_emitFinalArguments (finalArguments : Option String) :
    (emitFinalArguments index state finalArguments).1.stopped = state.stopped := by
  unfold emitFinalArguments
  split <;> rfl

theorem reads_emitFinalArguments (hrun : s.running = true)
    (hmem : (index, .toolUse) ∈ s.opened) (finalArguments : Option String) :
    Reads s (emitFinalArguments index state finalArguments).2 s := by
  unfold emitFinalArguments
  split
  · exact .contentBlockDelta hrun hmem
  · exact .nil s

theorem InStep.reads_finalArguments (h : InStep t s) (hrun : s.running = true)
    (hstate : t.toolUseBlocks index = some state) {finalArguments : Option String}
    (hin : state.stopped = true → state.deltaEmitted = false →
      finalArguments.filter (· ≠ "") = none) :
    Reads s (emitFinalArguments index state finalArguments).2 s := by
  cases hstop : state.stopped with
  | false => exact reads_emitFinalArguments hrun ((h.mem_opened hstate .toolUse).2 ⟨rfl, hstop⟩) _
  | true =>
      cases hdelta : state.deltaEmitted with
      | false =>
          simp only [emitFinalArguments, hdelta, hin hstop hdelta]
          exact .nil s
      | true =>
          simp only [emitFinalArguments, hdelta]
          exact .nil s

theorem InStep.closeToolUseBlock (h : InStep t s) {finalArguments : Option String}
    (hin : t.CloseInOrder index finalArguments)
    (ids : GeneratedIds) (item : Option Json) (response : Json) :
    ∃ s', Reads s (t.closeToolUseBlock ids index finalArguments item response).2 s' ∧
      InStep (t.closeToolUseBlock ids index finalArguments item response).1 s' := by
  obtain ⟨s₁, state, hread₁, h₁, hrun₁, hstate, hstop, hdelta⟩ :=
    h.ensureToolUseBlockStarted hin.1 ids (item.getD .null) response
  have hfinal : state.stopped = true → state.deltaEmitted = false →
      finalArguments.filter (· ≠ "") = none := by
    rw [hstop, hdelta]
    intro hs hd
    cases ho : t.toolUseBlocks index with
    | none => simp [ho, ToolUseStreamState.default] at hs
    | some state₀ => exact hin.2 state₀ ho (by simpa [ho] using hs) (by simpa [ho] using hd)
  have hread₂ := hread₁.append (h₁.reads_finalArguments hrun₁ hstate hfinal)
  have hstarted := h₁.toolStarted index state hstate
  simp only [AnthropicSseTranslator.closeToolUseBlock, hstate, Option.getD_some]
  split
  · exact ⟨s₁, hread₂, h₁.keepToolUseBlock hstate (by simpa using hstarted) (by simp)⟩
  · rename_i hs
    obtain ⟨s₂, hread, h₂⟩ := h₁.stopToolUseBlock hrun₁ hstate (by simpa using hs)
      { (emitFinalArguments index state finalArguments).1 with stopped := true }
      (by simpa using hstarted) rfl
    exact ⟨s₂, hread₂.append hread, h₂⟩

end ToolBlock

/-! ### The payloads before the last one -/

theorem InStep.error (h : InStep t s) (type message : String) :
    ∃ s', Reads s [.error type message] s' ∧ s'.ended = true := by
  refine ⟨{ s with ended := true }, .single ?_, rfl⟩
  simp [AnthropicEvent.shape, accept, h.summarized, h.ended]

theorem InStep.openTextBlock (h : InStep t s) (hrun : s.running = true)
    (htext : t.textBlockStarted = false) (htool : t.toolUseBlocks 0 = none)
    (emittedContentBlocks : Nat) :
    ∃ s', Reads s [.contentBlockStart 0 .text] s' ∧
      InStep { t with textBlockStarted := true, emittedContentBlocks } s' := by
  have hfresh : 0 ∉ s.used := by simp [h.used, htext, htool]
  refine ⟨{ s with
    opened := (0, .text) :: s.opened
    used := 0 :: s.used }, .single ?_, ?_⟩
  · simp [AnthropicEvent.shape, AnthropicBlockHead.kind, accept, hrun, hfresh]
  · refine ⟨h.started, h.summarized, h.ended, fun i k => ?_, fun i => ?_, h.toolStarted,
      fun _ => htool⟩
    · rw [List.mem_cons, h.opened i k, Prod.mk.injEq]
      cases k <;> simp [OpenAt, htext]
    · simp [List.mem_cons, h.used i, htext]

theorem InStep.reads_textDelta (h : InStep t s) (hrun : s.running = true)
    (htext : t.textBlockStarted = true) (text : String) :
    Reads s [.contentBlockDelta 0 (.textDelta text)] s := by
  exact .contentBlockDelta hrun ((h.opened 0 .text).2 ⟨rfl, htext⟩)

theorem InStep.reads_deltas (h : InStep t s) (hrun : s.running = true)
    (htext : t.textBlockStarted = true) (value : Json) :
    Reads s (match value.getStr "delta" with
      | some delta => [AnthropicEvent.contentBlockDelta 0 (.textDelta delta)]
      | none => []) s := by
  split
  · exact h.reads_textDelta hrun htext _
  · exact .nil s

variable {value : Json}

theorem InStep.handleOutputTextDelta (h : InStep t s)
    (hin : t.textBlockStarted = false → t.toolUseBlocks 0 = none) (ids : GeneratedIds) :
    ∃ s', Reads s (t.handleOutputTextDelta ids value).2 s' ∧
      InStep (t.handleOutputTextDelta ids value).1 s' := by
  obtain ⟨s₁, hread₁, h₁⟩ := h.ensureMessageStart ids (responseOf value)
  have hrun₁ : s₁.running = true := h₁.running (by simp)
  simp only [AnthropicSseTranslator.handleOutputTextDelta, textBlockStarted_ensureMessageStart]
  cases htext : t.textBlockStarted with
  | true =>
      simp only [if_true, List.append_nil]
      exact ⟨s₁, hread₁.append (h₁.reads_deltas hrun₁ (by simp [htext]) value), h₁⟩
  | false =>
      obtain ⟨s₂, hread₂, h₂⟩ := h₁.openTextBlock hrun₁ (by simp [htext])
        (by simp [hin htext])
        (max (t.ensureMessageStart ids (responseOf value)).1.emittedContentBlocks 1)
      simp only [Bool.false_eq_true, if_false]
      exact ⟨s₂, (hread₁.append hread₂).append (h₂.reads_deltas (h₂.running (by simp)) rfl value),
        h₂⟩

theorem InStep.handleFunctionCallArgumentsDelta (h : InStep t s)
    (hin : t.StartInOrder (t.outputIndex value))
    (hstopped : ∀ state ∈ t.toolUseBlocks (t.outputIndex value), state.stopped = true →
      value.getStr "delta" = none) (ids : GeneratedIds) :
    ∃ s', Reads s (t.handleFunctionCallArgumentsDelta ids value).2 s' ∧
      InStep (t.handleFunctionCallArgumentsDelta ids value).1 s' := by
  obtain ⟨s₁, state, hread₁, h₁, hrun₁, hstate, hstop, -⟩ :=
    h.ensureToolUseBlockStarted hin ids ((value.get "item").getD .null) (responseOf value)
  simp only [AnthropicSseTranslator.handleFunctionCallArgumentsDelta, hstate]
  split
  · exact ⟨s₁, hread₁, h₁⟩
  · rename_i delta hdelta
    have hopen : state.stopped = false := by
      rw [hstop]
      cases ho : t.toolUseBlocks (t.outputIndex value) with
      | none => rfl
      | some state₀ =>
          rw [Option.getD_some, Bool.eq_false_iff]
          intro hs
          rw [hstopped state₀ ho hs] at hdelta
          cases hdelta
    have hstarted := h₁.toolStarted _ state hstate
    have hmem := (h₁.mem_opened hstate .toolUse).2 ⟨rfl, hopen⟩
    exact ⟨s₁, hread₁.append (.contentBlockDelta hrun₁ hmem),
      h₁.keepToolUseBlock hstate hstarted rfl⟩

/-! ### The completed response -/

/-- The blocks of the content that are still to be gone through, and the tool blocks that
are open. -/
structure Closing (t : AnthropicSseTranslator) (s : State AnthropicBlockKind)
    (blocks : List (AnthropicContentBlock × Nat)) : Prop where
  running : s.running = true
  messageStarted : t.messageStarted = true
  toolStarted : ∀ i state, t.toolUseBlocks i = some state → state.started = true
  opened : ∀ i k, (i, k) ∈ s.opened ↔
    k = .toolUse ∧ ∃ state, t.toolUseBlocks i = some state ∧ state.stopped = false
  nodup : (blocks.map Prod.snd).Nodup
  unused : ∀ block ∈ blocks, t.toolUseBlocks block.2 = none → block.2 ∉ s.used
  matching : ∀ block ∈ blocks, ∀ state ∈ t.toolUseBlocks block.2,
    block.1.isToolUse = true ∧ (state.stopped = true → state.deltaEmitted = true)
  covered : ∀ i, ∀ state ∈ t.toolUseBlocks i, state.stopped = false →
    i ∈ blocks.map Prod.snd

section Closing

variable {index : Nat} {block : AnthropicContentBlock}
  {blocks : List (AnthropicContentBlock × Nat)}

theorem Closing.index_ne (h : Closing t s ((block, index) :: blocks))
    {b : AnthropicContentBlock × Nat} (hb : b ∈ blocks) : b.2 ≠ index := by
  intro heq
  have hmem : b.2 ∈ blocks.map Prod.snd := List.mem_map_of_mem hb
  rw [heq] at hmem
  exact (List.nodup_cons.1 h.nodup).1 hmem

/-- A block of the content that was not given yet. -/
theorem Closing.emitFullContentBlock (h : Closing t s ((block, index) :: blocks))
    (hnone : t.toolUseBlocks index = none) (codec : SerdeJson) :
    ∃ s', Reads s (t.emitFullContentBlock codec index block).2 s' ∧
      Closing (t.emitFullContentBlock codec index block).1 s' blocks := by
  have hfresh : index ∉ s.used := h.unused (block, index) List.mem_cons_self hnone
  have hclosed : ∀ b ∈ s.opened, b.1 ≠ index := by
    rintro ⟨i, k⟩ hb rfl
    obtain ⟨-, state, hstate, -⟩ := (h.opened i k).1 hb
    rw [hnone] at hstate
    cases hstate
  refine ⟨{ s with used := index :: s.used }, ?_, ?_⟩
  · cases block with
    | text text => exact acceptAll_block h.running hfresh hclosed _
    | toolUse id name input => exact acceptAll_block h.running hfresh hclosed _
  · refine ⟨h.running, h.messageStarted, h.toolStarted, h.opened,
      (List.nodup_cons.1 h.nodup).2, fun b hb hb' => ?_,
      fun b hb => h.matching b (List.mem_cons_of_mem _ hb), fun i state hstate hs => ?_⟩
    · rw [List.mem_cons, not_or]
      exact ⟨h.index_ne hb, h.unused b (List.mem_cons_of_mem _ hb) hb'⟩
    · obtain hi | hi := List.mem_cons.1 (h.covered i state hstate hs)
      · have hstate' : t.toolUseBlocks i = some state := hstate
        rw [show i = index from hi, hnone] at hstate'
        cases hstate'
      · exact hi

variable {state : ToolUseStreamState}

theorem ensureToolUseBlockStarted_of_started
    (hmessage : t.messageStarted = true) (hstate : t.toolUseBlocks index = some state)
    (hstart : state.started = true) (ids : GeneratedIds) (item response : Json) :
    t.ensureToolUseBlockStarted ids index item response =
      (t.setToolUseBlock index (state.named item), []) := by
  simp [AnthropicSseTranslator.ensureToolUseBlockStarted,
    AnthropicSseTranslator.ensureMessageStart, hmessage, hstate, hstart]

theorem closeToolUseBlock_of_started
    (hmessage : t.messageStarted = true) (hstate : t.toolUseBlocks index = some state)
    (hstart : state.started = true) (ids : GeneratedIds) (finalArguments : Option String)
    (item : Option Json) (response : Json) :
    t.closeToolUseBlock ids index finalArguments item response =
      let state := state.named (item.getD .null)
      let (state', deltas) := emitFinalArguments index state finalArguments
      if state'.stopped then
        ((t.setToolUseBlock index state).setToolUseBlock index state', deltas)
      else
        ((t.setToolUseBlock index state).setToolUseBlock index
          { state' with stopped := true }, deltas ++ [.contentBlockStop index]) := by
  simp only [AnthropicSseTranslator.closeToolUseBlock,
    ensureToolUseBlockStarted_of_started hmessage hstate hstart,
    toolUseBlocks_setToolUseBlock_self, Option.getD_some, List.nil_append]

theorem Closing.stopToolUseBlock {t' : AnthropicSseTranslator} {s' : State AnthropicBlockKind}
    (h : Closing t s ((block, index) :: blocks))
    (hmessage : t'.messageStarted = true) (hstate : t'.toolUseBlocks index = some state)
    (hother : ∀ i, i ≠ index → t'.toolUseBlocks i = t.toolUseBlocks i)
    (hstart : state.started = true) (hstop : state.stopped = true)
    (hrun : s'.running = true) (hused : s'.used = s.used)
    (hopened : ∀ i k, (i, k) ∈ s'.opened ↔ (i, k) ∈ s.opened ∧ i ≠ index) :
    Closing t' s' blocks where
  running := hrun
  messageStarted := hmessage
  toolStarted i state' hstate' := by
    by_cases hi : i = index
    · rw [hi, hstate] at hstate'
      rw [← Option.some.inj hstate', hstart]
    · rw [hother i hi] at hstate'
      exact h.toolStarted i state' hstate'
  opened i k := by
    rw [hopened i k, h.opened i k]
    by_cases hi : i = index
    · simp [hi, hstate, hstop]
    · simp [hi, hother i hi]
  nodup := (List.nodup_cons.1 h.nodup).2
  unused b hb hnone := by
    rw [hother _ (h.index_ne hb)] at hnone
    rw [hused]
    exact h.unused b (List.mem_cons_of_mem _ hb) hnone
  matching b hb := by
    rw [hother _ (h.index_ne hb)]
    exact h.matching b (List.mem_cons_of_mem _ hb)
  covered i state' hstate' hs := by
    by_cases hi : i = index
    · rw [hi, hstate, Option.mem_some_iff] at hstate'
      rw [← hstate', hstop] at hs
      cases hs
    · rw [hother i hi] at hstate'
      obtain hi' | hi' := List.mem_cons.1 (h.covered i state' hstate' hs)
      · exact absurd hi' hi
      · exact hi'

/-- The tool block of a call that was given, stopped if it is not stopped yet. -/
theorem Closing.closeToolUseBlock (h : Closing t s ((block, index) :: blocks))
    (hstate : t.toolUseBlocks index = some state) (ids : GeneratedIds)
    (finalArguments : Option String) (item : Option Json) (response : Json) :
    ∃ s', Reads s (t.closeToolUseBlock ids index finalArguments item response).2 s' ∧
      Closing (t.closeToolUseBlock ids index finalArguments item response).1 s' blocks := by
  have hstarted := h.toolStarted index state hstate
  have hother : ∀ (state₁ state₂ : ToolUseStreamState) (i : Nat), i ≠ index →
      ((t.setToolUseBlock index state₁).setToolUseBlock index state₂).toolUseBlocks i =
        t.toolUseBlocks i := by
    intro state₁ state₂ i hi
    simp [hi]
  have hmatch := (h.matching (block, index) List.mem_cons_self state hstate).2
  have hopen : (index, AnthropicBlockKind.toolUse) ∈ s.opened ↔ state.stopped = false := by
    rw [h.opened index .toolUse]
    simp [hstate]
  rw [closeToolUseBlock_of_started h.messageStarted hstate hstarted]
  cases hstop : state.stopped with
  | true =>
      -- the arguments were sent before
      have hemit : emitFinalArguments index (state.named (item.getD .null)) finalArguments =
          (state.named (item.getD .null), []) := by
        simp [emitFinalArguments, hmatch hstop, ToolUseStreamState.named]
      simp only [hemit, ToolUseStreamState.stopped_named, hstop, if_true]
      refine ⟨s, .nil s, h.stopToolUseBlock h.messageStarted toolUseBlocks_setToolUseBlock_self
        (hother _ _) hstarted hstop h.running rfl fun i k => ?_⟩
      refine ⟨fun hmem => ⟨hmem, ?_⟩, And.left⟩
      rintro rfl
      obtain ⟨rfl, -⟩ := (h.opened i k).1 hmem
      rw [hopen, hstop] at hmem
      cases hmem
  | false =>
      have hmem := hopen.2 hstop
      simp only [stopped_emitFinalArguments, ToolUseStreamState.stopped_named, hstop,
        Bool.false_eq_true, if_false]
      refine ⟨_, (reads_emitFinalArguments h.running hmem finalArguments).append
          (.contentBlockStop h.running hmem),
        h.stopToolUseBlock h.messageStarted toolUseBlocks_setToolUseBlock_self (hother _ _)
          (by simpa using hstarted) rfl h.running rfl fun i k => ?_⟩
      rw [List.mem_filter, decide_eq_true_eq]

theorem maybeEmitOrCloseContentBlock_of_none (h : t.toolUseBlocks index = none) :
    t.maybeEmitOrCloseContentBlock codec ids index block =
      t.emitFullContentBlock codec index block := by
  cases block <;> simp [AnthropicSseTranslator.maybeEmitOrCloseContentBlock, h]

theorem Closing.maybeEmitOrCloseContentBlock (h : Closing t s ((block, index) :: blocks))
    (codec : SerdeJson) (ids : GeneratedIds) :
    ∃ s', Reads s (t.maybeEmitOrCloseContentBlock codec ids index block).2 s' ∧
      Closing (t.maybeEmitOrCloseContentBlock codec ids index block).1 s' blocks := by
  cases hstate : t.toolUseBlocks index with
  | none =>
      rw [maybeEmitOrCloseContentBlock_of_none hstate]
      exact h.emitFullContentBlock hstate codec
  | some state =>
      have htool := (h.matching (block, index) List.mem_cons_self state hstate).1
      cases block with
      | text text => cases htool
      | toolUse id name input =>
          simp only [AnthropicSseTranslator.maybeEmitOrCloseContentBlock, hstate]
          exact h.closeToolUseBlock hstate ids _ _ _

theorem Closing.emitOrCloseContentBlocks (h : Closing t s blocks) (codec : SerdeJson)
    (ids : GeneratedIds) :
    ∃ s', Reads s (t.emitOrCloseContentBlocks codec ids blocks).2 s' ∧
      Closing (t.emitOrCloseContentBlocks codec ids blocks).1 s' [] := by
  induction blocks generalizing t s with
  | nil => exact ⟨s, .nil s, h⟩
  | cons b blocks ih =>
      obtain ⟨s₁, hread₁, h₁⟩ := h.maybeEmitOrCloseContentBlock codec ids
      obtain ⟨s₂, hread₂, h₂⟩ := ih h₁
      exact ⟨s₂, hread₁.append hread₂, h₂⟩

theorem Closing.opened_eq_nil (h : Closing t s []) : s.opened = [] := by
  rw [List.eq_nil_iff_forall_not_mem]
  rintro ⟨i, k⟩ hmem
  obtain ⟨-, state, hstate, hstop⟩ := (h.opened i k).1 hmem
  cases h.covered i state hstate hstop

end Closing

theorem nodup_remainingBlocks (content : List AnthropicContentBlock) :
    ((t.remainingBlocks content).map Prod.snd).Nodup := by
  have hnodup := List.nodup_zipIdx_map_snd content
  unfold remainingBlocks
  split
  · rw [List.map_drop]
    exact hnodup.sublist (List.drop_sublist 1 _)
  · exact hnodup

theorem snd_ne_zero_of_mem_remainingBlocks (htext : t.textBlockStarted = true)
    {content : List AnthropicContentBlock} {block : AnthropicContentBlock × Nat}
    (h : block ∈ t.remainingBlocks content) : block.2 ≠ 0 := by
  cases content with
  | nil => simp [remainingBlocks] at h
  | cons b content =>
      simp only [remainingBlocks, htext, if_true, List.zipIdx_cons, List.drop_succ_cons,
        List.drop_zero, Nat.zero_add] at h
      have := List.le_snd_of_mem_zipIdx h
      omega

/-- The text block is stopped, and the tool blocks are left. -/
theorem InStep.closing (h : InStep t s) (hm : t.messageStarted = true)
    {content : List AnthropicContentBlock} (hin : t.CompletionInOrder content) :
    ∃ s', Reads s (if t.textBlockStarted then [.contentBlockStop 0] else []) s' ∧
      Closing t s' (t.remainingBlocks content) := by
  have hrun := h.running hm
  cases htext : t.textBlockStarted with
  | true =>
      refine ⟨_, .contentBlockStop hrun ((h.opened 0 .text).2 ⟨rfl, htext⟩), hrun, hm,
        h.toolStarted, fun i k => ?_, nodup_remainingBlocks content, fun b hb hnone hused => ?_,
        hin.1, hin.2⟩
      · rw [List.mem_filter, h.opened i k]
        cases k with
        | text => simp +contextual [OpenAt]
        | toolUse =>
            simp only [OpenAt, decide_eq_true_eq, true_and, and_iff_left_iff_imp]
            rintro ⟨state, hstate, -⟩
            exact h.index_ne_zero hstate htext
      · obtain ⟨h0, -⟩ | hsome := (h.used b.2).1 hused
        · exact snd_ne_zero_of_mem_remainingBlocks htext hb h0
        · rw [hnone] at hsome
          cases hsome
  | false =>
      refine ⟨s, .nil s, hrun, hm, h.toolStarted, fun i k => ?_,
        nodup_remainingBlocks content, fun b hb hnone hused => ?_, hin.1, hin.2⟩
      · rw [h.opened i k]
        cases k <;> simp [OpenAt, htext]
      · obtain ⟨-, ht⟩ | hsome := (h.used b.2).1 hused
        · rw [htext] at ht
          cases ht
        · rw [hnone] at hsome
          cases hsome

theorem InStep.handleResponseCompleted (h : InStep t s)
    (hin : t.CompletionInOrder
      (anthropicContentFromResponsesOutput codec ids (responseOf value))) :
    ∃ s', Reads s (t.handleResponseCompleted codec ids value).2 s' ∧ s'.ended = true := by
  have h₀ : InStep ({ t with terminalEventSeen := true }.setResponseId (responseOf value)) s :=
    ⟨h.started, h.summarized, h.ended, h.opened, h.used, h.toolStarted, h.apart⟩
  obtain ⟨s₁, hread₁, h₁⟩ := h₀.ensureMessageStart ids (responseOf value)
  have hin₁ : (({ t with terminalEventSeen := true }.setResponseId
      (responseOf value)).ensureMessageStart ids (responseOf value)).1.CompletionInOrder
        (anthropicContentFromResponsesOutput codec ids (responseOf value)) := by
    simp only [CompletionInOrder, remainingBlocks, toolUseBlocks_ensureMessageStart,
      textBlockStarted_ensureMessageStart]
    exact hin
  obtain ⟨s₂, hread₂, h₂⟩ := h₁.closing (by simp) hin₁
  obtain ⟨s₃, hread₃, h₃⟩ := h₂.emitOrCloseContentBlocks codec ids
  refine ⟨_, ((hread₁.append hread₂).append hread₃).append
    (acceptAll_summary_stop h₃.running h₃.opened_eq_nil), rfl⟩

/-! ## Streams -/

/-- The translator and what was read of its events, the last one included. -/
def Follows (t : AnthropicSseTranslator) (s : State AnthropicBlockKind) : Prop :=
  if t.terminalEventSeen then s.ended = true else InStep t s

theorem InStep.follows (h : InStep t s) (ht : t.terminalEventSeen = false) : Follows t s := by
  simpa [Follows, ht] using h

section Terminal

variable {index : Nat}

@[simp] theorem terminalEventSeen_ensureToolUseBlockStarted (item response : Json) :
    (t.ensureToolUseBlockStarted ids index item response).1.terminalEventSeen =
      t.terminalEventSeen := by
  simp only [ensureToolUseBlockStarted]
  split <;> simp

@[simp] theorem terminalEventSeen_closeToolUseBlock (finalArguments : Option String)
    (item : Option Json) (response : Json) :
    (t.closeToolUseBlock ids index finalArguments item response).1.terminalEventSeen =
      t.terminalEventSeen := by
  simp only [closeToolUseBlock]
  split <;> simp

@[simp] theorem terminalEventSeen_handleOutputTextDelta (value : Json) :
    (t.handleOutputTextDelta ids value).1.terminalEventSeen = t.terminalEventSeen := by
  simp only [handleOutputTextDelta]
  split <;> simp

@[simp] theorem terminalEventSeen_handleFunctionCallArgumentsDelta (value : Json) :
    (t.handleFunctionCallArgumentsDelta ids value).1.terminalEventSeen =
      t.terminalEventSeen := by
  simp only [handleFunctionCallArgumentsDelta]
  split
  · simp
  · split <;> simp

@[simp] theorem terminalEventSeen_maybeEmitOrCloseContentBlock
    (block : AnthropicContentBlock) :
    (t.maybeEmitOrCloseContentBlock codec ids index block).1.terminalEventSeen =
      t.terminalEventSeen := by
  unfold maybeEmitOrCloseContentBlock
  split
  · simp
  · rfl

@[simp] theorem terminalEventSeen_emitOrCloseContentBlocks
    (blocks : List (AnthropicContentBlock × Nat)) :
    (t.emitOrCloseContentBlocks codec ids blocks).1.terminalEventSeen =
      t.terminalEventSeen := by
  induction blocks generalizing t with
  | nil => rfl
  | cons b blocks ih =>
      exact ih.trans (terminalEventSeen_maybeEmitOrCloseContentBlock b.1)

theorem terminalEventSeen_handleResponseCompleted (value : Json) :
    (t.handleResponseCompleted codec ids value).1.terminalEventSeen = true := by
  simp [handleResponseCompleted, setResponseId]

end Terminal

/-- One payload. -/
theorem InStep.translateValue (h : InStep t s) (ht : t.terminalEventSeen = false)
    (hin : t.ValueInOrder codec ids value) :
    ∃ s', Reads s (t.translateValue codec ids value).2 s' ∧
      Follows (t.translateValue codec ids value).1 s' := by
  unfold AnthropicSseTranslator.translateValue
  split
  · rename_i htype
    have h₀ : InStep (t.setResponseId (responseOf value)) s :=
      ⟨h.started, h.summarized, h.ended, h.opened, h.used, h.toolStarted, h.apart⟩
    obtain ⟨s', hread, h'⟩ := h₀.ensureMessageStart ids (responseOf value)
    exact ⟨s', hread, h'.follows (by simp [setResponseId, ht])⟩
  · rename_i htype
    simp only [ValueInOrder, htype] at hin
    obtain ⟨s', hread, h'⟩ := h.handleOutputTextDelta hin ids
    exact ⟨s', hread, h'.follows (by simp [ht])⟩
  · rename_i htype
    simp only [ValueInOrder, htype] at hin
    unfold handleResponseOutputItemAdded
    split
    · exact ⟨s, .nil s, h.follows ht⟩
    · rename_i item hitem
      obtain ⟨s', state, hread, h', -⟩ :=
        h.ensureToolUseBlockStarted (hin (by simp [hitem])) ids item (responseOf value)
      exact ⟨s', hread, h'.follows (by simp [ht])⟩
  · rename_i htype
    simp only [ValueInOrder, htype] at hin
    obtain ⟨s', hread, h'⟩ := h.handleFunctionCallArgumentsDelta hin.1 hin.2 ids
    exact ⟨s', hread, h'.follows (by simp [ht])⟩
  · rename_i htype
    simp only [ValueInOrder, htype] at hin
    obtain ⟨s', hread, h'⟩ := h.closeToolUseBlock hin ids (value.get "item") (responseOf value)
    exact ⟨s', hread, h'.follows (by simp [ht])⟩
  · rename_i htype
    simp only [ValueInOrder, htype] at hin
    unfold handleResponseOutputItemDone
    split
    · exact ⟨s, .nil s, h.follows ht⟩
    · rename_i item hitem
      obtain ⟨s', hread, h'⟩ := h.closeToolUseBlock (hin item hitem) ids (some item)
        (responseOf value)
      exact ⟨s', hread, h'.follows (by simp [ht])⟩
  · exact h.error _ _
  · exact h.error _ _
  · exact h.error _ _
  · rename_i htype
    simp only [ValueInOrder, htype] at hin
    obtain ⟨s', hread, hended⟩ := h.handleResponseCompleted hin
    exact ⟨s', hread, by simpa [Follows, terminalEventSeen_handleResponseCompleted] using hended⟩
  · exact ⟨s, .nil s, h.follows ht⟩

theorem Follows.translateFrame (h : Follows t s) {payload : Bytes}
    (hin : t.FrameInOrder codec ids payload) :
    ∃ s', Reads s (t.translateFrame codec ids payload).2 s' ∧
      Follows (t.translateFrame codec ids payload).1 s' := by
  unfold AnthropicSseTranslator.translateFrame
  cases ht : t.terminalEventSeen with
  | true => exact ⟨s, .nil s, h⟩
  | false =>
      have h' : InStep t s := by simpa [Follows, ht] using h
      simp only [Bool.false_eq_true, if_false]
      split
      · exact ⟨s, .nil s, h⟩
      · rename_i hdone
        cases hvalue : codec.fromSlice payload with
        | none => exact h'.error _ _
        | some value => exact h'.translateValue ht (hin ht hdone value hvalue)

theorem Follows.translateFrames (h : Follows t s) {payloads : List Bytes}
    (hin : Along (afterFrame codec ids) (FrameInOrder codec ids) t payloads) :
    ∃ s', Reads s (t.translateFrames codec ids payloads).2 s' ∧
      Follows (t.translateFrames codec ids payloads).1 s' := by
  induction payloads generalizing t s with
  | nil => exact ⟨s, .nil s, h⟩
  | cons payload payloads ih =>
      obtain ⟨s₁, hread₁, h₁⟩ := h.translateFrame hin.1
      obtain ⟨s₂, hread₂, h₂⟩ := ih h₁ hin.2
      exact ⟨s₂, hread₁.append hread₂, h₂⟩

theorem Follows.finishOnUpstreamEof (h : Follows t s) :
    ∃ s', Reads s t.finishOnUpstreamEof.2 s' ∧ s'.ended = true := by
  unfold AnthropicSseTranslator.finishOnUpstreamEof
  cases ht : t.terminalEventSeen with
  | true => exact ⟨s, .nil s, by simpa [Follows, ht] using h⟩
  | false =>
      have h' : InStep t s := by simpa [Follows, ht] using h
      exact h'.error _ _

theorem follows_new (requestedModel : String) (contextManagement : Option Json) :
    Follows (new requestedModel contextManagement) State.init := by
  refine InStep.follows ⟨rfl, rfl, rfl, fun i k => ?_, fun i => ?_, fun i state h => ?_,
    fun _ => rfl⟩ rfl
  · cases k <;> simp [State.init, OpenAt, new]
  · simp [State.init, new]
  · cases h

/-- A stream of payloads that are in order is translated into a well-formed one. -/
theorem translateStream_valid (codec : SerdeJson) (ids : GeneratedIds)
    (requestedModel : String) (contextManagement : Option Json) {payloads : List Bytes}
    (h : Along (afterFrame codec ids) (FrameInOrder codec ids)
      (new requestedModel contextManagement) payloads) :
    Valid ((translateStream codec ids (new requestedModel contextManagement) payloads).map
      AnthropicEvent.shape) := by
  obtain ⟨s₁, hread₁, h₁⟩ := (follows_new requestedModel contextManagement).translateFrames h
  obtain ⟨s₂, hread₂, hended⟩ := h₁.finishOnUpstreamEof
  exact ⟨s₂, hread₁.append hread₂, hended⟩

/-! A response with a function call and then a text, and one with a text alone. -/

def callAddedPayload : String :=
  "\x7b\"item" ++ ("\":\x7b\"call_id\":\"call_1\",\"name\":\"f\"," ++
    "\"type\":\"function_call\"\x7d,\"output_index\":0," ++
    "\"type\":\"response.output_item.added\"\x7d")

def textDeltaPayload : String :=
  "\x7b\"delta" ++
    "\":\"hi\",\"output_index\":1,\"type\":\"response.output_text.delta\"\x7d"

def textCompletedPayload : String :=
  "\x7b\"response" ++ ("\":\x7b\"output\":[\x7b\"content\":[\x7b\"text\":\"hi\"\x7d]," ++
    "\"type\":\"message\"\x7d]\x7d,\"type\":\"response.completed\"\x7d")

def textDeltaValue : Json :=
  .obj [("delta", .str "hi"), ("output_index", .int 1),
    ("type", .str "response.output_text.delta")]

def textCompletedValue : Json :=
  .obj [("response", .obj [("output", .arr [.obj
      [("content", .arr [.obj [("text", .str "hi")]]), ("type", .str "message")]])]),
    ("type", .str "response.completed")]

def callAddedValue : Json :=
  .obj [("item", .obj [("call_id", .str "call_1"), ("name", .str "f"),
      ("type", .str "function_call")]),
    ("output_index", .int 0), ("type", .str "response.output_item.added")]

def payloadCodec : SerdeJson :=
  .ofTable [(textDeltaPayload, textDeltaValue), (textCompletedPayload, textCompletedValue),
    (callAddedPayload, callAddedValue)]

def payloadIds : GeneratedIds := ⟨"msg_1", fun _ => "toolu_1"⟩

theorem payloadCodec_textDelta :
    payloadCodec.fromSlice (Bytes.ofAscii textDeltaPayload) = some textDeltaValue :=
  SerdeJson.ofTable_cons_self _ _ _

theorem payloadCodec_textCompleted :
    payloadCodec.fromSlice (Bytes.ofAscii textCompletedPayload) = some textCompletedValue := by
  have hdelta : Bytes.ofAscii textDeltaPayload ≠ Bytes.ofAscii textCompletedPayload := by
    unfold textDeltaPayload textCompletedPayload
    exact Bytes.ofAscii_append_ne 3 (by decide) (by decide) (by decide) _ _
  rw [payloadCodec, SerdeJson.ofTable_cons_of_ne hdelta]
  exact SerdeJson.ofTable_cons_self _ _ _

theorem payloadCodec_callAdded :
    payloadCodec.fromSlice (Bytes.ofAscii callAddedPayload) = some callAddedValue := by
  have hdelta : Bytes.ofAscii textDeltaPayload ≠ Bytes.ofAscii callAddedPayload := by
    unfold textDeltaPayload callAddedPayload
    exact Bytes.ofAscii_append_ne 3 (by decide) (by decide) (by decide) _ _
  have hcompleted : Bytes.ofAscii textCompletedPayload ≠ Bytes.ofAscii callAddedPayload := by
    unfold textCompletedPayload callAddedPayload
    exact Bytes.ofAscii_append_ne 3 (by decide) (by decide) (by decide) _ _
  rw [payloadCodec, SerdeJson.ofTable_cons_of_ne hdelta, SerdeJson.ofTable_cons_of_ne hcompleted]
  exact SerdeJson.ofTable_cons_self _ _ _

theorem textDeltaPayload_ne_done :
    Bytes.ofAscii textDeltaPayload ≠ Bytes.ofAscii "[DONE]" := by
  unfold textDeltaPayload
  rw [← String.append_empty (s := "[DONE]")]
  exact Bytes.ofAscii_append_ne 1 (by decide) (by decide) (by decide) _ ""

theorem prints_callAdded_textDelta :
    Prints payloadCodec [Bytes.ofAscii callAddedPayload, Bytes.ofAscii textDeltaPayload]
      [callAddedValue, textDeltaValue] := by
  refine .cons ⟨payloadCodec_callAdded, ?_⟩
    (.cons ⟨payloadCodec_textDelta, textDeltaPayload_ne_done⟩ .nil)
  unfold callAddedPayload
  rw [← String.append_empty (s := "[DONE]")]
  exact Bytes.ofAscii_append_ne 1 (by decide) (by decide) (by decide) _ ""

/-- The text block takes the index of the tool block. -/
theorem translateStream_not_valid :
    ¬ ∀ (codec : SerdeJson) (ids : GeneratedIds) (requestedModel : String)
      (contextManagement : Option Json) (payloads : List Bytes),
      Valid ((translateStream codec ids (new requestedModel contextManagement) payloads).map
        AnthropicEvent.shape) := by
  intro h
  have hvalid := h payloadCodec payloadIds "claude" none
    [Bytes.ofAscii callAddedPayload, Bytes.ofAscii textDeltaPayload]
  rw [translateStream_of_prints _ prints_callAdded_textDelta] at hvalid
  revert hvalid
  decide +kernel

@[simp] theorem toolUseBlocks_handleOutputTextDelta (value : Json) :
    (t.handleOutputTextDelta ids value).1.toolUseBlocks = t.toolUseBlocks := by
  simp only [handleOutputTextDelta]
  split <;> simp

theorem textPayloads_inOrder :
    Along (afterFrame payloadCodec payloadIds) (FrameInOrder payloadCodec payloadIds)
      (new "claude" none)
      [Bytes.ofAscii textDeltaPayload, Bytes.ofAscii textCompletedPayload] := by
  have hafter : (afterFrame payloadCodec payloadIds (new "claude" none)
      (Bytes.ofAscii textDeltaPayload)).toolUseBlocks = fun _ => none := by
    have htype : (textDeltaValue.getStr "type").getD "" = "response.output_text.delta" := by
      decide +kernel
    rw [afterFrame, translateFrame, if_neg (by simp [new]), if_neg textDeltaPayload_ne_done,
      payloadCodec_textDelta]
    simp only [translateValue, htype, toolUseBlocks_handleOutputTextDelta, new]
  refine ⟨fun _ _ value hvalue => ?_, fun _ _ value hvalue => ?_, trivial⟩
  · rw [payloadCodec_textDelta, Option.mem_some_iff] at hvalue
    subst hvalue
    exact fun _ => rfl
  · rw [payloadCodec_textCompleted, Option.mem_some_iff] at hvalue
    subst hvalue
    refine ⟨fun block _ state hstate => ?_, fun index state hstate => ?_⟩
    · rw [hafter] at hstate
      cases hstate
    · rw [hafter] at hstate
      cases hstate

/-- The stream of a text is well-formed. -/
theorem textStream_valid :
    Valid ((translateStream payloadCodec payloadIds (new "claude" none)
      [Bytes.ofAscii textDeltaPayload, Bytes.ofAscii textCompletedPayload]).map
        AnthropicEvent.shape) :=
  translateStream_valid payloadCodec payloadIds "claude" none textPayloads_inOrder

end AnthropicSseTranslator

end CodexPool
