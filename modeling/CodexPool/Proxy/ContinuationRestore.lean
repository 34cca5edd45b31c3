import CodexPool.Proxy.CodexAdaptation
import CodexPool.Proxy.Headers
import CodexPool.Responses.Conversation

/-!
# Restoring the continuation of a request

Before a request goes upstream the proxy looks for the response that it continues, by the cursor
of its conversation or by the cursor of its session. It then refuses a request that names both a
conversation and a previous response. A previous response that the proxy has put in itself is
refused as well.
-/

namespace CodexPool

/-- The session that the headers name. -/
def stickySessionKeyFromHeaders (headers : HeaderMap) : Option String :=
  ["session_id", "conversation_id", "x-session-id", "x-codex-turn-state"].findSome?
    (headerText headers)

/-- A field of the request that is a text and not blank, trimmed. -/
def trimmedField (value : Json) (field : String) : Option String :=
  Text.trimmed? (value.getStr field)

/-- The hints that are read off a request. -/
def parseRequestPolicyContext (headers : HeaderMap) (value : Option Json) :
    ParsedRequestPolicyContext :=
  match value with
  | none => ⟨none, none, none, none⟩
  | some value =>
    let conversationId := trimmedField value "conversation"
    let promptCacheKey := trimmedField value "prompt_cache_key"
    let metadataSessionId := (value.get "metadata").bind (trimmedField · "session_id")
    let previousResponseId := trimmedField value "previous_response_id"
    { continuationKeyHint := previousResponseId
      stickyKeyHint :=
        ((promptCacheKey.or metadataSessionId).or previousResponseId).or conversationId
      sessionKeyHint :=
        ((((stickySessionKeyFromHeaders headers).or metadataSessionId).or promptCacheKey).or
          conversationId).or previousResponseId
      conversationId := conversationId }

section Request

variable (codec : SerdeJson) (decodeZstdBodyLimited : Bytes → Option Bytes)
  (rt : BackgroundResponsesRuntime) (ownerKey path : String) (headers : HeaderMap) (body : Bytes)
  (clock : Clock)

def requestValue : Option Json :=
  parseRequestJsonBody codec decodeZstdBodyLimited (headerValues headers "content-encoding") body

/-- The body that goes upstream with its hints, or the message of the refusal. -/
def restoreContinuation : Except String (Bytes × ParsedRequestPolicyContext) :=
  let value := requestValue codec decodeZstdBodyLimited headers body
  let context := parseRequestPolicyContext headers value
  if path = "/v1/responses" then
    match value with
    | some value =>
      (prepareResponsesRequest rt ownerKey value context clock).map fun prepared =>
        ((codec.toText prepared.1).toUTF8.toList, prepared.2)
    | none => .ok (body, context)
  else .ok (body, context)

/-- The client itself names a previous response and a conversation. -/
def ClientSentBoth : Prop :=
  path = "/v1/responses" ∧ ∃ value, requestValue codec decodeZstdBodyLimited headers body =
    some value ∧ (value.getStr "previous_response_id").isSome ∧
      (trimmedField value "conversation").isSome

/-- The request names a conversation and no previous response, the conversation has no cursor, and
the session of the request has one. -/
def SessionCursorOnly : Prop :=
  path = "/v1/responses" ∧ ∃ value conversationId key responseId,
    requestValue codec decodeZstdBodyLimited headers body = some value ∧
    value.getStr "previous_response_id" = none ∧
    trimmedField value "conversation" = some conversationId ∧
    rt.currentConversationResponseId ownerKey conversationId clock = none ∧
    stableContinuationCursorKey (parseRequestPolicyContext headers (some value)) = some key ∧
    rt.currentContinuationCursorResponseId ownerKey key clock = some responseId

/-- The request is refused exactly if the client sent both. -/
def RefusesClientsOnly : Prop :=
  (∃ message, restoreContinuation codec decodeZstdBodyLimited rt ownerKey path headers body clock =
    .error message) ↔ ClientSentBoth codec decodeZstdBodyLimited path headers body

end Request

/-! ## What is refused -/

theorem applyConversationSemantics_error_iff (value : Json) (context : ParsedRequestPolicyContext)
    (previousResponseId : Option String) :
    (∃ message, applyConversationSemanticsToRequest value context previousResponseId =
      .error message) ↔
    (value.getStr "previous_response_id").isSome ∧ (trimmedField value "conversation").isSome := by
  unfold applyConversationSemanticsToRequest trimmedField
  dsimp only
  by_cases hobject : value.isObject = true
  · simp only [hobject, Bool.not_true, Bool.false_eq_true, if_false]
    by_cases hboth : ((value.getStr "previous_response_id").isSome &&
        (Text.trimmed? (value.getStr "conversation")).isSome) = true
    · rw [if_pos hboth]
      exact iff_of_true ⟨_, rfl⟩ (Bool.and_eq_true_iff.1 hboth)
    · rw [if_neg hboth]
      apply iff_of_false
      · rintro ⟨message, h⟩
        split at h <;> cases h
      · exact fun h => hboth (Bool.and_eq_true_iff.2 h)
  · rw [if_pos (by simpa using hobject)]
    apply iff_of_false
    · rintro ⟨message, h⟩
      cases h
    · intro h
      rcases Option.isSome_iff_exists.1 h.1 with ⟨id, hid⟩
      exact hobject (Json.isObject_of_getStr hid)

theorem isObject_of_trimmedField {value : Json} {field s : String}
    (h : trimmedField value field = some s) : value.isObject = true := by
  cases hstr : value.getStr field with
  | none =>
      rw [trimmedField, hstr] at h
      cases h
  | some text => exact Json.isObject_of_getStr hstr

def sessionResponseId (rt : BackgroundResponsesRuntime) (ownerKey : String) (value : Json)
    (context : ParsedRequestPolicyContext) (clock : Clock) : Option String :=
  if (context.conversationId.bind fun conversationId =>
      rt.currentConversationResponseId ownerKey conversationId clock).isNone &&
    !(trimmedField value "previous_response_id").isSome then
    (stableContinuationCursorKey context).bind fun key =>
      rt.currentContinuationCursorResponseId ownerKey key clock
  else none

theorem prepareResponsesRequest_eq (rt : BackgroundResponsesRuntime) (ownerKey : String)
    (value : Json) (context : ParsedRequestPolicyContext) (clock : Clock) :
    ∃ id, prepareResponsesRequest rt ownerKey value context clock =
      applyConversationSemanticsToRequest
        (match sessionResponseId rt ownerKey value context clock with
        | some responseId => value.insert "previous_response_id" (.str responseId)
        | none => value) context id := ⟨_, rfl⟩

theorem prepareResponsesRequest_error_iff (rt : BackgroundResponsesRuntime) (ownerKey : String)
    (value : Json) (context : ParsedRequestPolicyContext) (clock : Clock) :
    (∃ message, prepareResponsesRequest rt ownerKey value context clock = .error message) ↔
      ((value.getStr "previous_response_id").isSome ∨
        (sessionResponseId rt ownerKey value context clock).isSome) ∧
      (trimmedField value "conversation").isSome := by
  obtain ⟨id, heq⟩ := prepareResponsesRequest_eq rt ownerKey value context clock
  rw [heq, applyConversationSemantics_error_iff]
  cases sessionResponseId rt ownerKey value context clock with
  | none => simp
  | some responseId =>
      have hconversation : trimmedField (value.insert "previous_response_id" (.str responseId))
          "conversation" = trimmedField value "conversation" := by
        rw [trimmedField, Json.getStr, Json.get_insert_of_ne value (by decide)]
        rfl
      dsimp only
      rw [hconversation]
      apply and_congr_left
      intro hsome
      apply iff_of_true _ (.inr rfl)
      rcases Option.isSome_iff_exists.1 hsome with ⟨conversationId, hconversationId⟩
      have hobject := isObject_of_trimmedField hconversationId
      rw [Json.getStr, Json.get_insert_self hobject]
      rfl

section Refusal

variable {codec : SerdeJson} {decodeZstdBodyLimited : Bytes → Option Bytes}
  {rt : BackgroundResponsesRuntime} {ownerKey path : String} {headers : HeaderMap} {body : Bytes}
  {clock : Clock}

theorem restoreContinuation_error_iff :
    (∃ message, restoreContinuation codec decodeZstdBodyLimited rt ownerKey path headers body
      clock = .error message) ↔
    path = "/v1/responses" ∧ ∃ value,
      requestValue codec decodeZstdBodyLimited headers body = some value ∧
      ∃ message, prepareResponsesRequest rt ownerKey value
        (parseRequestPolicyContext headers (some value)) clock = .error message := by
  unfold restoreContinuation
  dsimp only
  by_cases hpath : path = "/v1/responses"
  · rw [if_pos hpath]
    cases requestValue codec decodeZstdBodyLimited headers body with
    | none => simp
    | some value =>
        dsimp only
        cases hprepared : prepareResponsesRequest rt ownerKey value
          (parseRequestPolicyContext headers (some value)) clock with
        | error message => simp [hpath, hprepared, Except.map]
        | ok prepared => simp [hprepared, Except.map]
  · rw [if_neg hpath]
    simp [hpath]

/-- A session gives a previous response to a request that has none only through its cursor. -/
theorem sessionResponseId_isSome_iff {value : Json} {conversationId : String}
    (hnone : value.getStr "previous_response_id" = none)
    (hconversation : trimmedField value "conversation" = some conversationId) :
    (sessionResponseId rt ownerKey value (parseRequestPolicyContext headers (some value))
      clock).isSome ↔
    rt.currentConversationResponseId ownerKey conversationId clock = none ∧
      ∃ key responseId,
        stableContinuationCursorKey (parseRequestPolicyContext headers (some value)) = some key ∧
        rt.currentContinuationCursorResponseId ownerKey key clock = some responseId := by
  have hprevious : (trimmedField value "previous_response_id").isSome = false := by
    rw [trimmedField, hnone]
    rfl
  have hcontext : (parseRequestPolicyContext headers (some value)).conversationId =
      some conversationId := hconversation
  rw [sessionResponseId, hcontext, hprevious, Option.bind_some]
  cases rt.currentConversationResponseId ownerKey conversationId clock with
  | none =>
      simp only [Option.isNone_none, Bool.not_false, Bool.and_true, if_true, true_and,
        Option.isSome_iff_exists, Option.bind_eq_some_iff]
      exact exists_comm
  | some responseId => simp

/-- A request is refused exactly if the client sent both, unless only its session has a cursor. -/
theorem continuation_refuses_iff :
    RefusesClientsOnly codec decodeZstdBodyLimited rt ownerKey path headers body clock ↔
      ¬SessionCursorOnly codec decodeZstdBodyLimited rt ownerKey path headers body clock := by
  unfold RefusesClientsOnly ClientSentBoth SessionCursorOnly
  rw [restoreContinuation_error_iff]
  by_cases hpath : path = "/v1/responses"
  · cases hvalue : requestValue codec decodeZstdBodyLimited headers body with
    | none => simp
    | some value => 
        simp only [hpath, true_and, Option.some_inj, exists_eq_left',
          prepareResponsesRequest_error_iff]
        cases hprevious : value.getStr "previous_response_id" with
        | some previous => simp [hprevious]
        | none =>
            cases hconversation : trimmedField value "conversation" with
            | none => simp [hprevious, hconversation]
            | some conversationId =>
                rw [sessionResponseId_isSome_iff hprevious hconversation]
                simp [hprevious, hconversation]
  · simp [hpath]

end Refusal

/-! A conversation without a cursor, in a session with one. -/

def conversationText : String := "\x7b\"conversation\":\"conv_1\"\x7d"

def conversationCodec : SerdeJson :=
  .ofTable [(conversationText, .ofFields [("conversation", .str "conv_1")])]

def sessionRuntime : BackgroundResponsesRuntime :=
  (BackgroundResponsesRuntime.new 86400).storeContinuationCursor "tenant" "sess_1" "resp_1" ⟨0, 0⟩

def sessionHeaders : HeaderMap := [("session_id", Bytes.ofAscii "sess_1")]

theorem session_cursor_refuses_conversation :
    ¬RefusesClientsOnly conversationCodec (fun _ => none) sessionRuntime "tenant" "/v1/responses"
      sessionHeaders (Bytes.ofAscii conversationText) ⟨1, 1⟩ := by
  have hvalue : requestValue conversationCodec (fun _ => none) sessionHeaders
      (Bytes.ofAscii conversationText) =
        some (.ofFields [("conversation", .str "conv_1")]) :=
    SerdeJson.ofTable_cons_self conversationText _ []
  intro h
  have hrefused : ∃ message, restoreContinuation conversationCodec (fun _ => none) sessionRuntime
      "tenant" "/v1/responses" sessionHeaders (Bytes.ofAscii conversationText) ⟨1, 1⟩ =
        .error message := by
    apply restoreContinuation_error_iff.2
    refine ⟨rfl, _, hvalue, (prepareResponsesRequest_error_iff _ _ _ _ _).2 ⟨.inr ?_, ?_⟩⟩
    · decide +kernel
    · decide +kernel
  rcases h.1 hrefused with ⟨-, value, hsome, hprevious, -⟩
  rw [← Option.some.inj (hvalue.symm.trans hsome)] at hprevious
  exact absurd hprevious (by decide +kernel)

end CodexPool
