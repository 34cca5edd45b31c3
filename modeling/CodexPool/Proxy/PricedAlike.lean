import CodexPool.Proxy.Settlement
import CodexPool.Proxy.StreamValues

/-!
# The three paths compared

The same response can be settled on each of the three paths. They ask for the same usage at
the same service tier, the tier of the response, when every tier that is named on the way is
the one that was requested, and the response has usage; or when nothing is captured at all.
-/

namespace CodexPool

open Saturating WsLogicalResponseTracker

/-! ## Events before the last -/

inductive InitialEventType where
  | created
  | inProgress

def InitialEventType.text : InitialEventType → String
  | .created => "response.created"
  | .inProgress => "response.in_progress"

/-- An event before the last, with the fields that the response has at that time. -/
structure InitialEvent where
  eventType : InitialEventType
  sequenceNumber : Int
  response : Json

def InitialEvent.value (event : InitialEvent) : Json :=
  responseEvent event.eventType.text event.sequenceNumber event.response

def completedEvent (sequenceNumber : Int) (response : Json) : Json :=
  responseEvent "response.completed" sequenceNumber response

namespace StreamUsage

theorem observeValues_initial (seen : StreamUsage) {initial : List InitialEvent}
    {values : List (Json × Bool)} (h : values.map Prod.fst = initial.map InitialEvent.value) :
    let seen' := seen.observeValues values
    (seen'.usage = none ↔ seen.usage = none ∧
        ∀ event ∈ initial, extractUsageTokensFromValue event.response = none) ∧
      seen'.serviceTier =
        seen.serviceTier.or (initial.findSome? fun event => ownServiceTier event.response) ∧
      seen'.outputTextChars = seen.outputTextChars := by
  induction initial generalizing seen values with
  | nil =>
      obtain rfl : values = [] := by simpa using h
      simp [observeValues]
  | cons event initial ih =>
      obtain ⟨⟨value, fromDataLine⟩, values, rfl⟩ : ∃ value rest, values = value :: rest := by
        cases values with
        | nil => simp at h
        | cons value rest => exact ⟨value, rest, rfl⟩
      simp only [List.map_cons, List.cons.injEq] at h
      obtain ⟨rfl, h⟩ := h
      have htypes : event.eventType.text ≠ "response.output_text.delta" ∧
          event.eventType.text ≠ "response.output_text.done" := by
        cases event.eventType <;> decide
      obtain ⟨husage, htier, hchars⟩ := seen.observeValue_responseEvent event.sequenceNumber
        event.response fromDataLine htypes.1 htypes.2
      obtain ⟨husage', htier', hchars'⟩ :=
        ih (seen.observeValue event.value fromDataLine) h
      have hstep : seen.observeValues ((event.value, fromDataLine) :: values) =
          (seen.observeValue event.value fromDataLine).observeValues values := rfl
      rw [← InitialEvent.value] at husage htier hchars
      simp only [hstep]
      refine ⟨?_, ?_, hchars'.trans hchars⟩
      · rw [husage', husage, Option.or_eq_none_iff, List.forall_mem_cons]
        tauto
      · rw [htier', htier, List.findSome?_cons, Option.or_assoc]
        cases ownServiceTier event.response <;> simp

end StreamUsage

/-! ## What is sent to the capture -/

structure CaptureTerms where
  usage : UsageTokens
  serviceTier : Option String
deriving DecidableEq

def captureTermsOf (payload : BillingCaptureRequest) : CaptureTerms :=
  ⟨⟨payload.inputTokens, payload.cachedInputTokens, payload.outputTokens,
    payload.reasoningTokens⟩, payload.serviceTier⟩

def captureTerms (commands : List BillingCommand) : List CaptureTerms :=
  commands.filterMap fun command => command.capturePayload?.map captureTermsOf

@[simp] theorem captureTerms_settle (session : BillingSession) (usage : UsageTokens)
    (tier : Option String) :
    captureTerms [.settle session usage tier] =
      [⟨usage, tier.or session.requestedServiceTier⟩] := rfl

@[simp] theorem captureTerms_releaseFor (session : BillingSession)
    (releaseReason failoverAction : String) :
    captureTerms [session.releaseFor releaseReason failoverAction] = [] := rfl

/-- The same response for the same request on each of the three paths: as a body, as a stream
in which some events come before the last one, and as an event on a socket that is for the
request. -/
structure Arrivals (codec : SerdeJson) (pending : PendingBillingSession)
    (authorizationId : Uuid) (response : Json) where
  status : Nat
  isSuccess_status : isSuccess status = true
  body : Bytes
  fromSlice_body : codec.fromSlice body = some response
  chunks : List Bytes
  initial : List InitialEvent
  sequenceNumber : Int
  streamValues_chunks : (streamValues codec chunks.flatten).map Prod.fst =
    initial.map InitialEvent.value ++ [completedEvent sequenceNumber response]
  text : String
  socketNumber : Int
  fromStr_text : codec.fromStr text = some (completedEvent socketNumber response)
  tracker : WsLogicalResponseTracker
  tracked : WsTrackedResponse
  requestFor_tracker :
    tracker.requestFor (extractWsResponseId (completedEvent socketNumber response)) =
      some tracked
  isCompleted_tracker :
    tracker.isCompleted (extractWsResponseId (completedEvent socketNumber response)) = false
  billingSession_tracked :
    tracked.billingSession = some (authorizeBillingSession pending true authorizationId)
  pendingBillingActions_tracker : tracker.pendingBillingActions = []
  now : Nat

section Terms

variable {codec : SerdeJson} {pending : PendingBillingSession} {authorizationId : Uuid}
  {response : Json}

namespace Arrivals

def bufferedTerms (a : Arrivals codec pending authorizationId response) : List CaptureTerms :=
  captureTerms (settleBillingIfNeeded codec
    (some (authorizeBillingSession pending false authorizationId)) a.status a.body)

def streamedTerms (a : Arrivals codec pending authorizationId response) : List CaptureTerms :=
  captureTerms (finalizeStreamBilling (authorizeBillingSession pending true authorizationId)
    ((a.chunks.foldl (SseUsageTracker.observeChunk codec) .empty).finishUsage codec))

def socketTerms (a : Arrivals codec pending authorizationId response) : List CaptureTerms :=
  captureTerms (processWsPendingBillingActions
    (a.tracker.observeUpstreamText codec a.text a.now).1.pendingBillingActions)

/-- The tier of the first event of the stream that names one. -/
def firstServiceTier (a : Arrivals codec pending authorizationId response) : Option String :=
  (a.initial.findSome? fun event => ownServiceTier event.response).or (ownServiceTier response)

variable (a : Arrivals codec pending authorizationId response)

theorem bufferedTerms_of_usage {usage : UsageTokens}
    (h : extractUsageTokensFromValue response = some usage) :
    a.bufferedTerms = [⟨usage, pending.requestedServiceTier⟩] := by
  have husage : extractUsageTokens codec a.body = some usage := by
    rw [extractUsageTokens, a.fromSlice_body, Option.bind_some, h]
  simp [bufferedTerms, settleBillingIfNeeded, a.isSuccess_status, husage,
    authorizeBillingSession]

theorem roughTokenEstimate_pos {chars : Nat} (h : chars ≠ 0) :
    0 < (roughTokenEstimateFromCharCount chars).val := by
  rw [roughTokenEstimateFromCharCount, I64.val_ofInt, clamp]
  omega

theorem bufferedTerms_of_no_usage (h : extractUsageTokensFromValue response = none) :
    a.bufferedTerms = [] ↔
      pending.estimatedInputTokens ≤ 0 ∧ responseTextChars response = 0 := by
  have husage : extractUsageTokens codec a.body = none := by
    rw [extractUsageTokens, a.fromSlice_body, Option.bind_some, h]
  have hestimate : max ((estimateResponseOutputTokens codec a.body).getD 0) 0 = 0 ↔
      responseTextChars response = 0 := by
    rw [estimateResponseOutputTokens, a.fromSlice_body, Option.bind_some]
    split_ifs with hchars
    · simp [hchars]
    · have hpos := roughTokenEstimate_pos hchars
      simp only [Option.getD_some, max_eq_right_iff, hchars, iff_false, not_le]
      exact hpos
  have hinput : max pending.estimatedInputTokens 0 = 0 ↔ pending.estimatedInputTokens ≤ 0 :=
    max_eq_right_iff
  simp only [bufferedTerms, settleBillingIfNeeded, a.isSuccess_status, husage,
    BillingSession.estimatedUsage, authorizeBillingSession, Bool.not_true, Bool.false_eq_true,
    if_false, hinput, hestimate]
  split_ifs with hzero <;> simp [hzero]

/-- The observation of the stream. -/
theorem observation_chunks :
    let o := (a.chunks.foldl (SseUsageTracker.observeChunk codec) .empty).finishUsage codec
    (∀ usage, extractUsageTokensFromValue response = some usage → o.usage = some usage) ∧
      (extractUsageTokensFromValue response = none → (o.usage = none ↔
        ∀ event ∈ a.initial, extractUsageTokensFromValue event.response = none)) ∧
      o.serviceTier = a.firstServiceTier ∧ o.estimatedOutputTokens = none := by
  obtain ⟨values, last, hvalues, hinitial, hlast⟩ :=
    List.map_eq_append_iff.1 a.streamValues_chunks
  obtain ⟨⟨value, fromDataLine⟩, rfl, hvalue⟩ := List.map_eq_singleton_iff.1 hlast
  obtain rfl : value = completedEvent a.sequenceNumber response := hvalue
  obtain ⟨husage, htier, hchars⟩ := StreamUsage.empty.observeValues_initial hinitial
  obtain ⟨husage', htier', hchars'⟩ :=
    (StreamUsage.empty.observeValues values).observeValue_responseEvent a.sequenceNumber
      response fromDataLine (by decide : "response.completed" ≠ _) (by decide)
  have hseen : StreamUsage.empty.observeValues (streamValues codec a.chunks.flatten) =
      (StreamUsage.empty.observeValues values).observeValue
        (completedEvent a.sequenceNumber response) fromDataLine := by
    rw [hvalues, StreamUsage.observeValues, List.foldl_append]
    rfl
  rw [← completedEvent] at husage' htier' hchars'
  rw [finishUsage_observeChunks, streamUsageObservation_eq, hseen]
  simp only [StreamUsage.observation, SseUsageTracker.finishUsage, List.isEmpty_nil, if_true,
    husage', htier', hchars', htier, hchars]
  refine ⟨fun usage h => by rw [h, Option.some_or], fun h => ?_, ?_, ?_⟩
  · rw [h, Option.none_or, husage]
    simp [StreamUsage.empty]
  · simp [StreamUsage.empty, firstServiceTier]
  · simp [StreamUsage.empty]

theorem streamedTerms_of_usage {usage : UsageTokens}
    (h : extractUsageTokensFromValue response = some usage) :
    a.streamedTerms = [⟨usage, a.firstServiceTier.or pending.requestedServiceTier⟩] := by
  obtain ⟨husage, -, htier, -⟩ := a.observation_chunks
  simp only [streamedTerms, finalizeStreamBilling, husage usage h, htier, Option.some_or,
    captureTerms_settle, authorizeBillingSession, Option.none_or, Option.or_assoc,
    Option.or_self]

theorem streamedTerms_of_no_usage (h : extractUsageTokensFromValue response = none) :
    a.streamedTerms = [] ↔
      ∀ event ∈ a.initial, extractUsageTokensFromValue event.response = none := by
  obtain ⟨-, husage, -, hestimate⟩ := a.observation_chunks
  rw [← husage h]
  simp only [streamedTerms, finalizeStreamBilling, hestimate, Option.map_none, Option.or_none]
  cases ((a.chunks.foldl (SseUsageTracker.observeChunk codec) .empty).finishUsage codec).usage
    with
  | none => simp
  | some usage => simp

theorem extractWsEventType_completedEvent (n : Int) (response : Json) :
    extractWsEventType (completedEvent n response) = some "response.completed" := by
  have htype : (completedEvent n response).get "type" = some (.str "response.completed") := by
    simp [completedEvent, responseEvent, Json.get, Json.lookupField]
  have htrimmed : Text.trimmed? (some "response.completed") = some "response.completed" := by
    decide +kernel
  rw [extractWsEventType, wsStringAtPath]
  simp only [List.foldl_cons, List.foldl_nil, Option.bind_some, htype, Json.asStr, htrimmed]

/-- The billing actions of the event on the socket. -/
theorem pendingBillingActions_observe :
    (a.tracker.observeUpstreamText codec a.text a.now).1.pendingBillingActions =
      if isAnonymous (a.tracked.withEvent (completedEvent a.socketNumber response))
          (extractUsageTokensFromValue response) then []
      else [.capture { authorizeBillingSession pending true authorizationId with
          effectiveServiceTier :=
            (ownServiceTier response).or a.tracked.seed.requestedServiceTier }
        (extractUsageTokensFromValue response)] := by
  have htaken : (a.tracker.takeTracked
      (extractWsResponseId (completedEvent a.socketNumber response)) a.now).1 = a.tracked := by
    rw [takeTracked_fst, a.requestFor_tracker, Option.getD_some]
  have hactions := (takeTracked_frame a.tracker
    (extractWsResponseId (completedEvent a.socketNumber response)) a.now).2
  rw [a.pendingBillingActions_tracker] at hactions
  have htype := extractWsEventType_completedEvent a.socketNumber response
  have husage : extractUsageTokensFromValue (completedEvent a.socketNumber response) =
      extractUsageTokensFromValue response := extractUsageTokens_responseEvent _ _ _
  have htier : extractServiceTierFromValue (completedEvent a.socketNumber response) =
      ownServiceTier response := extractServiceTier_responseEvent _ _ _
  have hsession : (a.tracked.withEvent (completedEvent a.socketNumber response)).billingSession =
      some (authorizeBillingSession pending true authorizationId) := a.billingSession_tracked
  have hcomplete : ∀ (t : WsLogicalResponseTracker) (tracked : WsTrackedResponse),
      (t.complete tracked).pendingBillingActions = t.pendingBillingActions := by
    intro t tracked
    rw [complete]
    cases tracked.seed.responseId <;> rfl
  simp only [observeUpstreamText, a.fromStr_text, observeUpstreamValue,
    isWsResponseCreatedEvent, isWsResponseIncompleteEvent, isWsResponseFailedEvent,
    isWsErrorEvent, isWsResponseCompletedEvent, htype, Option.some.injEq, String.reduceEq,
    decide_false, decide_true, Bool.true_or, Bool.false_eq_true, if_false, if_true,
    completeResponse, a.isCompleted_tracker, htaken, husage, htier, hsession]
  split_ifs
  · exact hactions
  · simp only [pushAction, hcomplete, hactions]
    rfl

theorem socketTerms_of_usage {usage : UsageTokens}
    (h : extractUsageTokensFromValue response = some usage) :
    a.socketTerms = [⟨usage, ((ownServiceTier response).or
      a.tracked.seed.requestedServiceTier).or pending.requestedServiceTier⟩] := by
  rw [socketTerms, pendingBillingActions_observe, h, if_neg (by simp [isAnonymous])]
  rfl

theorem socketTerms_of_no_usage (h : extractUsageTokensFromValue response = none) :
    a.socketTerms = [] := by
  rw [socketTerms, pendingBillingActions_observe, h]
  split_ifs <;> rfl

/-! ## The paths compared -/

/-- The three paths capture the same usage at the same tier, which is that of the response
when it names one. -/
def PricedAlike : Prop :=
  a.bufferedTerms = a.streamedTerms ∧ a.streamedTerms = a.socketTerms ∧
    ∀ tier ∈ ownServiceTier response, ∀ terms ∈ a.bufferedTerms, terms.serviceTier = some tier

/-- Every tier that a path takes from the response, its events or the request is the one that
was requested; and a response without usage leaves nothing to capture. -/
def NothingToDiffer : Prop :=
  if (extractUsageTokensFromValue response).isSome then
    (∀ tier ∈ a.firstServiceTier, pending.requestedServiceTier = some tier) ∧
      ∀ tier ∈ (ownServiceTier response).or a.tracked.seed.requestedServiceTier,
        pending.requestedServiceTier = some tier
  else
    (∀ event ∈ a.initial, extractUsageTokensFromValue event.response = none) ∧
      pending.estimatedInputTokens ≤ 0 ∧ responseTextChars response = 0

theorem eq_or_iff {α : Type*} (o requested : Option α) :
    requested = o.or requested ↔ ∀ x ∈ o, requested = some x := by
  cases o <;> simp

theorem pricedAlike_iff : a.PricedAlike ↔ a.NothingToDiffer := by
  rw [PricedAlike, NothingToDiffer]
  cases h : extractUsageTokensFromValue response with
  | some usage =>
      rw [a.bufferedTerms_of_usage h, a.streamedTerms_of_usage h, a.socketTerms_of_usage h,
        ← eq_or_iff, ← eq_or_iff]
      simp only [List.cons.injEq, CaptureTerms.mk.injEq, true_and, and_true,
        List.mem_singleton, forall_eq, Option.isSome_some, if_true]
      constructor
      · rintro ⟨hstream, hsocket, -⟩
        exact ⟨hstream, hstream.trans hsocket⟩
      · rintro ⟨hstream, hsocket⟩
        refine ⟨hstream, hstream.symm.trans hsocket, fun tier htier => ?_⟩
        rw [eq_or_iff] at hsocket
        exact hsocket tier (by simp [Option.mem_def.1 htier])
  | none =>
      rw [a.socketTerms_of_no_usage h, a.streamedTerms_of_no_usage h]
      simp only [Option.isSome_none, Bool.false_eq_true, if_false,
        ← a.bufferedTerms_of_no_usage h]
      constructor
      · rintro ⟨hbuffered, hstream, -⟩
        exact ⟨hstream, hbuffered.trans ((a.streamedTerms_of_no_usage h).2 hstream)⟩
      · rintro ⟨hstream, hbuffered⟩
        refine ⟨hbuffered.trans ((a.streamedTerms_of_no_usage h).2 hstream).symm, hstream, ?_⟩
        rw [hbuffered]
        simp

end Arrivals

end Terms

/-! ## A response at a tier that was not requested -/

def priorityResponse : Json :=
  .obj [("service_tier", .str "priority"), ("usage", .obj [("input_tokens", .int 7)])]

def priorityBody : String :=
  "\x7b\"service_tier\":\"priority\",\"usage\":\x7b\"input_tokens\":7\x7d\x7d"

def priorityEvent : String :=
  "\x7b\"response\":" ++ priorityBody ++
    ",\"sequence_number\":0,\"type\":\"response.completed\"\x7d"

def priorityCodec : SerdeJson :=
  .ofTable [(priorityBody, priorityResponse), (priorityEvent, completedEvent 0 priorityResponse)]

def samplePending : PendingBillingSession :=
  { tenantId := sampleTenant, apiKeyId := sampleKey, requestId := "req-1"
    traceRequestId := none, model := "gpt-5.4", requestedServiceTier := none, sessionKey := ""
    requestKind := "response", estimatedInputTokens := 0 }

def sampleTracked : WsTrackedResponse :=
  ⟨⟨none, none, none, none, 0⟩, some (authorizeBillingSession samplePending true sampleHold), [],
    false⟩

theorem priorityEvent_facts :
    Bytes.ofAscii priorityBody ≠ Bytes.ofAscii priorityEvent ∧
      priorityEvent.toUTF8.toList = Bytes.ofAscii priorityEvent ∧
      PlainPayload (Bytes.ofAscii priorityEvent) := by
  decide +kernel

theorem fromSlice_priorityEvent :
    priorityCodec.fromSlice (Bytes.ofAscii priorityEvent) =
      some (completedEvent 0 priorityResponse) := by
  rw [priorityCodec, SerdeJson.ofTable_cons_of_ne priorityEvent_facts.1]
  exact SerdeJson.ofTable_cons_self _ _ _

theorem fromStr_priorityEvent :
    priorityCodec.fromStr priorityEvent = some (completedEvent 0 priorityResponse) := by
  rw [SerdeJson.fromStr, priorityEvent_facts.2.1, fromSlice_priorityEvent]

theorem streamValues_priorityChunk :
    streamValues priorityCodec (dataFrame (Bytes.ofAscii priorityEvent)) =
      [(completedEvent 0 priorityResponse, true)] := by
  rw [streamValues_dataFrame _ priorityEvent_facts.2.2, fromSlice_priorityEvent]
  rfl

/-- A response at the tier `priority`, which was not requested. -/
def priorityArrivals : Arrivals priorityCodec samplePending sampleHold priorityResponse where
  status := 200
  isSuccess_status := rfl
  body := Bytes.ofAscii priorityBody
  fromSlice_body := SerdeJson.ofTable_cons_self _ _ _
  chunks := [dataFrame (Bytes.ofAscii priorityEvent)]
  initial := []
  sequenceNumber := 0
  streamValues_chunks := by simp [streamValues_priorityChunk]
  text := priorityEvent
  socketNumber := 0
  fromStr_text := fromStr_priorityEvent
  tracker := { empty with pendingRequests := [sampleTracked] }
  tracked := sampleTracked
  requestFor_tracker := rfl
  isCompleted_tracker := rfl
  billingSession_tracked := rfl
  pendingBillingActions_tracker := rfl
  now := 0

/-- The body is captured without a tier, and the stream at that of the response. -/
theorem arrivals_not_pricedAlike :
    ¬ ∀ (codec : SerdeJson) (pending : PendingBillingSession) (authorizationId : Uuid)
      (response : Json) (a : Arrivals codec pending authorizationId response),
      a.PricedAlike := by
  intro h
  have husage : extractUsageTokensFromValue priorityResponse = some ⟨7, 0, 0, 0⟩ := by
    decide +kernel
  have htier : priorityArrivals.firstServiceTier = some "priority" := by decide +kernel
  have hterms := (h _ _ _ _ priorityArrivals).1
  rw [priorityArrivals.bufferedTerms_of_usage husage,
    priorityArrivals.streamedTerms_of_usage husage, htier] at hterms
  revert hterms
  decide

end CodexPool
