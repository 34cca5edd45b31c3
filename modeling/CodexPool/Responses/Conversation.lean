import CodexPool.Lib.Text
import CodexPool.Responses.Isolation

/-!
# Conversations

A request that names a conversation continues from the response that the cursor of the
conversation names. The foreground stores the identifier that the upstream gave to a
response. The worker of a background response puts the identifier under which the
response was queued in its place, and the cursor then names a response that the upstream
has never seen. Streamed responses and those that are not to be stored leave the cursor
behind.
-/

namespace CodexPool

open Machine

/-! ## The request that goes upstream -/

structure ParsedRequestPolicyContext where
  continuationKeyHint : Option String
  stickyKeyHint : Option String
  sessionKeyHint : Option String
  conversationId : Option String

def stableContinuationCursorKey (context : ParsedRequestPolicyContext) : Option String :=
  let stable (key : String) : Bool :=
    context.conversationId ≠ some key && context.continuationKeyHint ≠ some key
  (context.sessionKeyHint.filter stable).or (context.stickyKeyHint.filter stable)

def applyConversationSemanticsToRequest (requestValue : Json)
    (context : ParsedRequestPolicyContext) (previousResponseId : Option String) :
    Except String (Json × ParsedRequestPolicyContext) :=
  if !requestValue.isObject then .ok (requestValue, context)
  else
    let hasPreviousResponseId := (requestValue.getStr "previous_response_id").isSome
    let conversationId := Text.trimmed? (requestValue.getStr "conversation")
    if hasPreviousResponseId && conversationId.isSome then
      .error "previous_response_id cannot be used together with conversation"
    else
      let context := match conversationId with
        | some conversationId =>
          { context with
            conversationId := some conversationId
            stickyKeyHint := some conversationId
            sessionKeyHint := some conversationId }
        | none => context
      match hasPreviousResponseId, previousResponseId with
      | false, some previousResponseId =>
        .ok (requestValue.insert "previous_response_id" (.str previousResponseId),
          { context with continuationKeyHint := some previousResponseId })
      | _, _ => .ok (requestValue, context)

/-- What the handler makes of a request before it is queued or sent. -/
def prepareResponsesRequest (rt : BackgroundResponsesRuntime) (ownerKey : String)
    (requestValue : Json) (context : ParsedRequestPolicyContext) (clock : Clock) :
    Except String (Json × ParsedRequestPolicyContext) :=
  let hasPreviousResponseId :=
    (Text.trimmed? (requestValue.getStr "previous_response_id")).isSome
  let priorConversationResponseId := context.conversationId.bind fun conversationId =>
    rt.currentConversationResponseId ownerKey conversationId clock
  let restored :=
    if priorConversationResponseId.isNone && !hasPreviousResponseId then
      (stableContinuationCursorKey context).bind fun key =>
        rt.currentContinuationCursorResponseId ownerKey key clock
    else none
  let requestValue := match restored with
    | some responseId => requestValue.insert "previous_response_id" (.str responseId)
    | none => requestValue
  applyConversationSemanticsToRequest requestValue context priorConversationResponseId

theorem applyConversationSemanticsToRequest_inserts {requestValue request' : Json}
    {context context' : ParsedRequestPolicyContext} {previousResponseId : String}
    (hobj : requestValue.isObject = true)
    (hnone : requestValue.getStr "previous_response_id" = none)
    (h : applyConversationSemanticsToRequest requestValue context (some previousResponseId) =
      .ok (request', context')) :
    request'.getStr "previous_response_id" = some previousResponseId := by
  simp only [applyConversationSemanticsToRequest, hobj, hnone, Bool.not_true,
    Bool.false_eq_true, if_false, Option.isSome_none, Bool.false_and, Except.ok.injEq,
    Prod.mk.injEq] at h
  rw [← h.1, Json.getStr, Json.get_insert_self hobj]
  rfl

theorem prepareResponsesRequest_inserts {rt : BackgroundResponsesRuntime}
    {ownerKey conversationId responseId : String} {requestValue request' : Json}
    {context context' : ParsedRequestPolicyContext} {clock : Clock}
    (hobj : requestValue.isObject = true)
    (hnone : requestValue.getStr "previous_response_id" = none)
    (hc : context.conversationId = some conversationId)
    (hcursor : rt.currentConversationResponseId ownerKey conversationId clock =
      some responseId)
    (h : prepareResponsesRequest rt ownerKey requestValue context clock =
      .ok (request', context')) :
    request'.getStr "previous_response_id" = some responseId := by
  simp only [prepareResponsesRequest, hc, Option.bind_some, hcursor, Option.isNone_some,
    Bool.false_and, Bool.false_eq_true, if_false] at h
  exact applyConversationSemanticsToRequest_inserts hobj hnone h

/-! ## Runs -/

/-- The stored responses, and for each owner and conversation the identifier that the
upstream gave to the latest completed response. -/
structure ConversationState where
  responses : ResponsesState
  latest : String × String → Option String

inductive ConversationInput where
  /-- A call, among them `store_completed_response` with the body of a response that the
  upstream has completed: the response to a client, or to the request that a worker
  sends to the proxy itself. -/
  | call (call : ResponsesCall)
  /-- The upstream completes a streamed response, which is passed on and not stored. -/
  | streamed (ownerKey conversationId responseId : String)

section Run

variable (codec : SerdeJson)

def upstreamResponseId (responseBody : Bytes) : Option String :=
  (codec.fromSlice responseBody).bind fun responseValue => responseValue.getStr "id"

def conversationStep (st : ConversationState) : ConversationInput → ConversationState
  | .call call =>
    { responses := responsesStep codec st.responses call
      latest := match call with
        | .storeCompletedResponse ownerKey _ responseBody (some conversationId) _ _ =>
          Function.update st.latest (ownerKey, conversationId)
            (upstreamResponseId codec responseBody)
        | _ => st.latest }
  | .streamed ownerKey conversationId responseId =>
    { st with
      latest := Function.update st.latest (ownerKey, conversationId) (some responseId) }

def ConversationState.NotBehind (st : ConversationState) (ownerKey conversationId : String)
    (responseId : Option String) : Prop :=
  ∀ cursor ∈ st.responses.runtime.conversations conversationId,
    cursor.ownerKey = ownerKey → responseId = some cursor.responseId

instance (st : ConversationState) (ownerKey conversationId : String)
    (responseId : Option String) : Decidable (st.NotBehind ownerKey conversationId responseId) :=
  inferInstanceAs (Decidable (∀ _ ∈ _, _))

/-- What the worker stores has no identifier of its own making. -/
def StoresUpstreamId (latest : Option String) : WorkerAction → Prop
  | .result responseValue =>
    responseValue.getStr "object" ≠ some "response" ∧
      ∀ responseId ∈ responseValue.getStr "id", latest = some responseId
  | .snapshot responseValue terminal => terminal = true → responseValue.getStr "id" = none
  | _ => True

instance (latest : Option String) : ∀ action, Decidable (StoresUpstreamId latest action)
  | .markInProgress _ => inferInstanceAs (Decidable True)
  | .result _ => inferInstanceAs (Decidable (_ ∧ _))
  | .frame .. => inferInstanceAs (Decidable True)
  | .snapshot .. => inferInstanceAs (Decidable (_ → _))
  | .failure .. => inferInstanceAs (Decidable True)

/-- The input leaves every cursor at the latest response of its conversation. -/
def KeepsUpstreamIds (st : ConversationState) : ConversationInput → Prop
  | .call (.storeCompletedResponse ownerKey requestBody responseBody (some conversationId)
      forceStore _) =>
    BackgroundResponsesRuntime.completedResponse codec requestBody responseBody
        (some conversationId) forceStore = none →
      st.NotBehind ownerKey conversationId (upstreamResponseId codec responseBody)
  | .call (.worker worker action) =>
    worker ∈ st.responses.workers →
      ∀ record ∈ st.responses.runtime.entries worker.responseId, record.cancelled = false →
      ∀ conversationId ∈ worker.conversationId,
        StoresUpstreamId (st.latest (record.ownerKey, conversationId)) action
  | .call _ => True
  | .streamed ownerKey conversationId responseId =>
    st.NotBehind ownerKey conversationId (some responseId)

instance (st : ConversationState) : ∀ input, Decidable (KeepsUpstreamIds codec st input)
  | .call (.storeCompletedResponse _ _ _ (some _) _ _) => inferInstanceAs (Decidable (_ → _))
  | .call (.storeCompletedResponse _ _ _ none _ _) => inferInstanceAs (Decidable True)
  | .call (.worker ..) => inferInstanceAs (Decidable (_ → _))
  | .call (.storeContinuationCursor ..) => inferInstanceAs (Decidable True)
  | .call (.queueBackgroundResponse ..) => inferInstanceAs (Decidable True)
  | .call (.cancelResponse ..) => inferInstanceAs (Decidable True)
  | .call (.lookup ..) => inferInstanceAs (Decidable True)
  | .call (.cleanupExpired _) => inferInstanceAs (Decidable True)
  | .streamed .. => inferInstanceAs (Decidable (∀ _ ∈ _, _))

end Run

/-! ## Cursors -/

/-- Every cursor names the latest response of its conversation. -/
def ConversationState.CursorsUpstream (st : ConversationState) : Prop :=
  ∀ conversationId, ∀ cursor ∈ st.responses.runtime.conversations conversationId,
    st.latest (cursor.ownerKey, conversationId) = some cursor.responseId

namespace BackgroundResponsesRuntime

variable {codec : SerdeJson} {rt : BackgroundResponsesRuntime} {r : String}

theorem mem_storeConversation {conversationId : Option String}
    {record : StoredResponseRecord} {k : String} {cursor : ConversationCursor}
    (h : cursor ∈ (rt.storeConversation conversationId record).conversations k) :
    cursor ∈ rt.conversations k ∨
      conversationId = some k ∧ cursor.ownerKey = record.ownerKey ∧
        record.response.getStr "id" = some cursor.responseId := by
  unfold storeConversation at h
  split at h
  · rename_i c finalResponseId hid
    by_cases hk : k = c
    · subst hk
      simp only [Function.update_self, Option.mem_some_iff] at h
      subst h
      exact .inr ⟨rfl, rfl, hid⟩
    · simp only [Function.update_of_ne hk] at h
      exact .inl h
  · exact .inl h

theorem mem_conversations_alter
    {f : StoredResponseRecord → Option (StoredResponseRecord × Option String)}
    {k : String} {cursor : ConversationCursor}
    (h : cursor ∈ (rt.alter r f).conversations k) :
    cursor ∈ rt.conversations k ∨
      ∃ record ∈ rt.entries r, ∃ record', f record = some (record', some k) ∧
        cursor.ownerKey = record'.ownerKey ∧
        record'.response.getStr "id" = some cursor.responseId := by
  unfold alter at h
  cases hf : (rt.entries r).bind f with
  | none => exact .inl (by simpa [hf] using h)
  | some altered =>
      obtain ⟨record, hrecord, hfr⟩ := Option.bind_eq_some_iff.1 hf
      simp only [hf] at h
      obtain h | ⟨hc, howner, hid⟩ := mem_storeConversation h
      · exact .inl h
      · exact .inr ⟨record, hrecord, altered.1, by rw [hfr, ← hc], howner, hid⟩

end BackgroundResponsesRuntime

theorem getStr_id_rewriteResponseIds {value : Json} {responseId : String}
    (h : value.getStr "object" ≠ some "response") :
    (rewriteResponseIds value responseId).getStr "id" = value.getStr "id" := by
  unfold rewriteResponseIds
  extract_lets value' value''
  have hvalue' : ∀ k, k ≠ "response_id" → value'.getStr k = value.getStr k := by
    intro k hk
    simp only [value', Json.getStr]
    split
    · rw [Json.get_insert_of_ne _ hk]
    · rfl
  have hvalue'' : ∀ k, k ≠ "response" → value''.getStr k = value'.getStr k := by
    intro k hk
    simp only [value'', Json.getStr]
    split
    · rw [Json.get_insert_of_ne _ hk]
    · rfl
  have hobject : value''.getStr "object" = value.getStr "object" := by
    rw [hvalue'' _ (by decide), hvalue' _ (by decide)]
  rw [hobject, if_neg h, hvalue'' _ (by decide), hvalue' _ (by decide)]

theorem StoredResponseRecord.getStr_id_annotate (value : Json) (background : Bool)
    (conversationId : Option String) :
    (annotate value background conversationId).getStr "id" = value.getStr "id" := by
  cases conversationId <;>
    simp [annotate, Json.getStr, Json.get_insertNew_of_ne, Json.get_insert_of_ne]

section Step

variable {codec : SerdeJson} {st : ConversationState} {input : ConversationInput}

/-- The cursor that an action of a worker writes. -/
theorem StoresUpstreamId.latest_eq {worker : SpawnedWorker} {action : WorkerAction}
    {record record' : StoredResponseRecord} {c responseId : String}
    (hf : BackgroundResponsesRuntime.alteration codec worker record action =
      some (record', some c)) (hid : record'.response.getStr "id" = some responseId)
    (hconv : record.cancelled = false → ∀ c ∈ worker.conversationId,
      StoresUpstreamId (st.latest (record.ownerKey, c)) action) :
    st.latest (record.ownerKey, c) = some responseId := by
  cases action with
  | markInProgress clock => simp [BackgroundResponsesRuntime.alteration] at hf
  | frame bytes clock =>
      simp [BackgroundResponsesRuntime.alteration, Option.bind_eq_some_iff] at hf
  | failure requestBody statusCode responseBody clock =>
      simp [BackgroundResponsesRuntime.alteration] at hf
  | result responseValue =>
      simp only [BackgroundResponsesRuntime.alteration, Option.ite_none_left_eq_some,
        Option.some.injEq, Prod.mk.injEq] at hf
      obtain ⟨hcancelled, rfl, hc⟩ := hf
      obtain ⟨hobj, hlatest⟩ := hconv (Bool.eq_false_iff.2 hcancelled) c hc
      rw [StoredResponseRecord.withResult, StoredResponseRecord.getStr_id_annotate,
        getStr_id_rewriteResponseIds hobj] at hid
      exact hlatest responseId hid
  | snapshot responseValue terminal =>
      simp only [BackgroundResponsesRuntime.alteration, Option.ite_none_left_eq_some,
        Option.some.injEq, Prod.mk.injEq] at hf
      obtain ⟨hcancelled, rfl, hc⟩ := hf
      cases terminal with
      | false => cases hc
      | true =>
          rw [StoredResponseRecord.withSnapshot, StoredResponseRecord.getStr_id_annotate,
            hconv (Bool.eq_false_iff.2 hcancelled) c hc rfl] at hid
          cases hid

theorem completedResponse_upstreamResponseId {requestBody : Json} {responseBody : Bytes}
    {conversationId : Option String} {forceStore : Bool} {stored : String × Json}
    (h : BackgroundResponsesRuntime.completedResponse codec requestBody responseBody
      conversationId forceStore = some stored) :
    upstreamResponseId codec responseBody = some stored.1 := by
  simp only [BackgroundResponsesRuntime.completedResponse, Option.bind_eq_some_iff,
    Option.ite_none_left_eq_some, Option.some.injEq] at h
  obtain ⟨responseValue, hvalue, responseId, hid, -, rfl⟩ := h
  simp [upstreamResponseId, hvalue, hid]

/-- The response of the foreground is stored under the identifier of the upstream, or it is
not stored and leaves no cursor behind. -/
theorem cursorsUpstream_storeCompletedResponse {ownerKey : String} {requestBody : Json}
    {responseBody : Bytes} {conversationId : Option String} {forceStore : Bool}
    {clock : Clock} (h : st.CursorsUpstream)
    (hok : KeepsUpstreamIds codec st (.call (.storeCompletedResponse ownerKey requestBody
      responseBody conversationId forceStore clock))) :
    (conversationStep codec st (.call (.storeCompletedResponse ownerKey requestBody
      responseBody conversationId forceStore clock))).CursorsUpstream := by
  intro k cursor hcursor
  simp only [conversationStep, responsesStep] at hcursor
  cases hs : BackgroundResponsesRuntime.completedResponse codec requestBody responseBody
      conversationId forceStore with
  | none =>
      rw [BackgroundResponsesRuntime.storeCompletedResponse_of_none hs] at hcursor
      cases conversationId with
      | none => exact h k cursor hcursor
      | some c =>
          by_cases hk : (cursor.ownerKey, k) = (ownerKey, c)
          · obtain ⟨ho, rfl⟩ := Prod.mk.inj hk
            simp only [conversationStep, hk, Function.update_self]
            exact hok hs cursor hcursor ho
          · simp only [conversationStep, Function.update_of_ne hk]
            exact h k cursor hcursor
  | some stored =>
      rw [BackgroundResponsesRuntime.storeCompletedResponse_of_some hs] at hcursor
      have hid := BackgroundResponsesRuntime.completedResponse_id hs
      cases conversationId with
      | none => exact h k cursor hcursor
      | some c =>
          simp only [BackgroundResponsesRuntime.storeConversation,
            StoredResponseRecord.completed, hid] at hcursor
          by_cases hk : k = c
          · subst hk
            rw [Function.update_self, Option.mem_some_iff] at hcursor
            subst hcursor
            simp only [conversationStep, Function.update_self]
            exact completedResponse_upstreamResponseId hs
          · rw [Function.update_of_ne hk] at hcursor
            have hne : (cursor.ownerKey, k) ≠ (ownerKey, c) :=
              fun heq => hk (Prod.mk.inj heq).2
            simp only [conversationStep, Function.update_of_ne hne]
            exact h k cursor hcursor

theorem cursorsUpstream_step (h : st.CursorsUpstream) (hok : KeepsUpstreamIds codec st input) :
    (conversationStep codec st input).CursorsUpstream := by
  intro k cursor hcursor
  cases input with
  | streamed ownerKey c responseId =>
      by_cases hk : (cursor.ownerKey, k) = (ownerKey, c)
      · obtain ⟨ho, rfl⟩ := Prod.mk.inj hk
        simp only [conversationStep, hk, Function.update_self]
        exact hok cursor hcursor ho
      · simp only [conversationStep, Function.update_of_ne hk]
        exact h k cursor hcursor
  | call call =>
      cases call with
      | storeCompletedResponse ownerKey requestBody responseBody conversationId forceStore
          clock => exact cursorsUpstream_storeCompletedResponse h hok k cursor hcursor
      | worker worker action =>
          simp only [conversationStep, responsesStep] at hcursor ⊢
          split at hcursor
          · rename_i hw
            rw [BackgroundResponsesRuntime.act_eq_alter] at hcursor
            obtain hcursor | ⟨record, hr, record', hf, howner, hid⟩ :=
              BackgroundResponsesRuntime.mem_conversations_alter hcursor
            · exact h k cursor hcursor
            · rw [howner, BackgroundResponsesRuntime.alteration_ownerKey hf]
              exact StoresUpstreamId.latest_eq hf hid (hok hw record hr)
          · exact h k cursor hcursor
      | cancelResponse ownerKey responseId clock =>
          simp only [conversationStep, responsesStep] at hcursor ⊢
          rw [BackgroundResponsesRuntime.cancelResponse_eq_alter] at hcursor
          obtain hcursor | ⟨record, hr, record', hf, -⟩ :=
            BackgroundResponsesRuntime.mem_conversations_alter hcursor
          · exact h k cursor hcursor
          · simp [BackgroundResponsesRuntime.cancellation] at hf
      | cleanupExpired clock =>
          exact h k cursor (Option.mem_filter_iff.1 hcursor).1
      | storeContinuationCursor ownerKey key responseId clock => exact h k cursor hcursor
      | queueBackgroundResponse worker requestBody clock => exact h k cursor hcursor
      | lookup ownerKey lookup clock => exact h k cursor hcursor

end Step

def ConversationState.start (retention : Nat) : ConversationState where
  responses := ⟨.new retention, []⟩
  latest := fun _ => none

/-- The cursor of a conversation supplies the identifier that the upstream gave to the
latest response, and a request that continues the conversation is sent with it. -/
def ConversationState.ContinuesUpstream (st : ConversationState) : Prop :=
  ∀ ownerKey conversationId responseId clock,
    st.responses.runtime.currentConversationResponseId ownerKey conversationId clock =
      some responseId →
    st.latest (ownerKey, conversationId) = some responseId ∧
      ∀ requestValue request' context context', requestValue.isObject = true →
        requestValue.getStr "previous_response_id" = none →
        context.conversationId = some conversationId →
        prepareResponsesRequest st.responses.runtime ownerKey requestValue context clock =
          .ok (request', context') →
        request'.getStr "previous_response_id" = some responseId

theorem ConversationState.CursorsUpstream.continuesUpstream {st : ConversationState}
    (h : st.CursorsUpstream) : st.ContinuesUpstream := by
  intro ownerKey conversationId responseId clock hcurrent
  refine ⟨?_, fun requestValue request' context context' hobj hnone hc hprepare =>
    prepareResponsesRequest_inserts hobj hnone hc hcurrent hprepare⟩
  unfold BackgroundResponsesRuntime.currentConversationResponseId
    BackgroundResponsesRuntime.cursorResponseId at hcurrent
  cases hcursor : st.responses.runtime.conversations conversationId with
  | none => simp [hcursor] at hcurrent
  | some cursor =>
      simp only [hcursor, Option.ite_none_left_eq_some, not_or, not_not,
        Option.some.injEq] at hcurrent
      obtain ⟨⟨rfl, -⟩, rfl⟩ := hcurrent
      exact h conversationId cursor hcursor

theorem conversation_continuesUpstream (codec : SerdeJson) (retention : Nat)
    {inputs : List ConversationInput}
    (h : Along (conversationStep codec) (KeepsUpstreamIds codec) (.start retention) inputs) :
    (run (conversationStep codec) (.start retention) inputs).ContinuesUpstream := by
  have hstart : (ConversationState.start retention).CursorsUpstream := by
    intro _ _ hcursor
    cases hcursor
  have hrun := h.invariant (fun _ _ hst hok => cursorsUpstream_step hst hok) hstart
  exact hrun.continuesUpstream

/-! A conversation of two turns, the first of them in the background. -/

def turnBody (responseId : String) : Bytes :=
  Bytes.ofAscii ("\x7b\"id\":\"" ++ responseId ++ "\",\"object\":\"response\"\x7d")

def turnResponse (responseId : String) : Json :=
  .obj [("id", .str responseId), ("object", .str "response")]

/-- The codec on the bodies of the turns. -/
def turnCodec : SerdeJson where
  fromSlice bytes :=
    (["resp_up1", "resp_up2"].find? fun responseId => bytes = turnBody responseId).map
      turnResponse
  toText _ := ""

/-- A turn of the foreground, or the request of a worker to the proxy itself. -/
def turnCompletes (responseId : String) : ConversationInput :=
  .call (.storeCompletedResponse "tenant_a" (.obj [("conversation", .str "conv_1")])
    (turnBody responseId) (some "conv_1") false ⟨0, 0⟩)

def turnWorker : SpawnedWorker := ⟨"tenant_a", "resp_local", some "conv_1"⟩

/-- The turn in the background: it is queued, the proxy stores the response of the
upstream, and the worker the same response under the identifier of the queue. -/
def backgroundTurn : List ConversationInput :=
  [.call (.queueBackgroundResponse turnWorker (.obj [("conversation", .str "conv_1")]) ⟨0, 0⟩),
    .call (.worker turnWorker (.markInProgress ⟨0, 0⟩)), turnCompletes "resp_up1",
    .call (.worker turnWorker (.result (turnResponse "resp_up1")))]

theorem backgroundTurn_not_continuesUpstream :
    ¬ ∀ (codec : SerdeJson) (retention : Nat) (inputs : List ConversationInput),
      (run (conversationStep codec) (.start retention) inputs).ContinuesUpstream := by
  intro h
  have hlatest := (h turnCodec 86400 backgroundTurn "tenant_a" "conv_1" "resp_local" ⟨0, 0⟩
    (by decide +kernel)).1
  revert hlatest
  decide +kernel

/-- Turns of the foreground continue from each other. -/
theorem foregroundTurns_continueUpstream :
    (run (conversationStep turnCodec) (.start 86400)
      [turnCompletes "resp_up1", turnCompletes "resp_up2"]).latest ("tenant_a", "conv_1") =
        some "resp_up2" :=
  (conversation_continuesUpstream turnCodec 86400 (by decide +kernel) "tenant_a" "conv_1"
    "resp_up2" ⟨0, 0⟩ (by decide +kernel)).1

end CodexPool
