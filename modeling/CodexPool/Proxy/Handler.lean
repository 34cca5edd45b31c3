import CodexPool.Proxy.Settlement

/-!
# The handler of a request

The handler selects an account, authorizes the request, and sends it upstream. A failure is
retried with the same account, then with another one, and is returned in the end. The hold of
the request is settled or released on every way out, by the handler or by a task that it
leaves behind.
-/

namespace CodexPool

open Saturating

/-! ## Replies -/

inductive ReplyBody where
  | bytes (body : Bytes)
  | stream
  | error (code message : String)

structure ProxyReply where
  status : Nat
  body : ReplyBody

section Replies

variable (codec : SerdeJson)

/-- The value of a line of a body in which a completed response is searched. -/
def codexLineValue (rawLine : Bytes) : Option Json :=
  let line := Bytes.trimAscii rawLine
  if line.isEmpty then none
  else
    let payload := match Bytes.stripPrefix (Bytes.ofAscii "data:") line with
      | some rawPayload => Bytes.trimAscii rawPayload
      | none => line
    if payload.isEmpty || payload = Bytes.ofAscii "[DONE]" then none
    else codec.fromSlice payload

def completedResponseOf (value : Json) : Option Json :=
  if value.getStr "type" = some "response.completed" ∨
      value.getStr "type" = some "response.done" then value.get "response"
  else none

def extractCodexCompletedResponse (body : Bytes) : Option Json :=
  match codec.fromSlice body with
  | some value => some value
  | none =>
    let (lines, lastLine) := LineFeed.split 0x0A [] body
    (lines ++ [lastLine]).foldl (fun completed rawLine =>
      ((codexLineValue codec rawLine).bind completedResponseOf).or completed) none

abbrev LearnedDecisions := UpstreamErrorContext → Option UpstreamErrorDecision

variable (learned : LearnedDecisions)

/-- Two codes are decided as they are, and what was learned comes before the class. -/
def decideLearnedError (source : UpstreamErrorSource) (context : UpstreamErrorContext) :
    UpstreamErrorDecision :=
  if context.errorCode = some "previous_response_not_found" ∧ source ≠ .wsHandshake then
    decideUpstreamError source (some context)
  else if context.errorCode = some "websocket_connection_limit_reached" ∧
      source = .wsPrelude then decideUpstreamError source (some context)
  else (learned context).getD (decideUpstreamError source (some context))

def normalizeUpstreamErrorResponse (source : UpstreamErrorSource)
    (context : UpstreamErrorContext) : ProxyReply :=
  let decision := decideLearnedError learned source context
  ⟨context.status, .error decision.outwardCode decision.outwardMessage⟩

def mapServiceUnavailable (headers : UpstreamHeaders) (body : Bytes) :
    ProxyReply × UpstreamErrorContext :=
  let context := (buildUpstreamErrorContext codec 503 headers body).getD {
    upstreamStatus := 503
    status := 503
    errorCode := none
    errorMessage := none
    rawError := extractUpstreamRawError body
    retryAfter := headers.retryAfter
    upstreamRequestId := headers.upstreamRequestId
    errorClass := .upstreamUnavailable }
  (normalizeUpstreamErrorResponse learned .http context, context)

def bufferedResponse (status : Nat) (headers : UpstreamHeaders) (body : Bytes) :
    ProxyReply × Option UpstreamErrorContext :=
  match if 400 ≤ status then buildUpstreamErrorContext codec status headers body else none with
  | some context => (normalizeUpstreamErrorResponse learned .http context, some context)
  | none => (⟨status, .bytes body⟩, none)

def missingCompletionContext (headers : UpstreamHeaders) : UpstreamErrorContext where
  upstreamStatus := 502
  status := 502
  errorCode := none
  errorMessage := some "codex upstream stream missing completion event"
  rawError := none
  retryAfter := none
  upstreamRequestId := headers.upstreamRequestId
  errorClass := .transientServer

def bufferedCodexCompatResponse (status : Nat) (headers : UpstreamHeaders) (body : Bytes) :
    ProxyReply × Option UpstreamErrorContext × Bytes :=
  if 400 ≤ status then
    let (reply, context) := bufferedResponse codec learned status headers body
    (reply, context, body)
  else
    match extractCodexCompletedResponse codec body with
    | some completedResponse =>
      let responseBody := (codec.toText completedResponse).toUTF8.toList
      (⟨status, .bytes responseBody⟩, none, responseBody)
    | none =>
      let context := missingCompletionContext headers
      (normalizeUpstreamErrorResponse learned .http context, some context, body)

end Replies

/-! ## States and inputs -/

structure HandlerConfig where
  enableRequestFailover : Bool
  sameAccountQuickRetryMax : Nat
  /-- The account is fixed by the request. -/
  forcedAccountSelection : Bool
  /-- The client asked for a stream. -/
  stream : Bool
  /-- The request identifiers that are generated, one after the other. -/
  generateBillingRequestId : Nat → String

inductive HoldEvent where
  | authorized (session : BillingSession)
  | asked (command : BillingCommand)

inductive HandlerPhase where
  | selecting
  | attempting (bridgeStreamResponse : Bool)
  | returned (reply : ProxyReply)

structure HandlerState where
  phase : HandlerPhase
  pendingBillingSession : Option PendingBillingSession
  billingSession : Option BillingSession
  generatedIds : Nat
  sameAccountRetryAttempt : Nat
  didCrossAccountFailover : Bool
  lastFailure : Option ProxyReply
  /-- What was done with the holds so far. -/
  events : List HoldEvent
  /-- What the task that was left behind will do. -/
  task : List BillingCommand
  seenOkReported : Bool

inductive Selection where
  | forcedAccountMissing
  | waitForRouteUpdate
  | noAccount
  | unhealthy
  | invalidUpstreamUrl
  | servedFromModelsCache (body : Bytes)
  | account (bridgeStreamResponse : Bool)

inductive UpstreamOutcome where
  | proxyUnavailable
  | transportError
  | response (status : Nat) (headers : UpstreamHeaders) (contentTypeIndicatesStream : Bool)
      (items : List UpstreamItem)

/-- What an attempt meets. -/
structure Attempt where
  authorizeReply : Except ErrorReply Uuid
  outcome : UpstreamOutcome
  beforeDeadline : Bool
  hasUntriedCandidate : Bool
  learned : LearnedDecisions
  client : Client
  /-- How many reads a drained stream is given. -/
  reads : Nat

inductive HandlerInput where
  | select (selection : Selection)
  | attempt (attempt : Attempt)
  | runTask

/-- The body of a response, empty when it cannot be read to its end. -/
def bodyOf (items : List UpstreamItem) : Bytes :=
  if items.all (·.isOk) then (streamChunks items).flatten else []

/-! ## Ways out -/

/-- The payload of a release on best effort. -/
structure BillingReleaseFailureContext where
  releaseReason : String
  upstreamStatusCode : Nat
  upstreamErrorCode : Option String
  failoverAction : String
  failoverReasonClass : String
  crossAccountFailoverAttempted : Bool

def BillingSession.releaseHold (session : BillingSession)
    (context : BillingReleaseFailureContext) : BillingCommand :=
  .release { session.releasePayload with
    releaseReason := some context.releaseReason
    upstreamStatusCode := some context.upstreamStatusCode
    upstreamErrorCode := context.upstreamErrorCode
    failoverAction := some context.failoverAction
    failoverReasonClass := some context.failoverReasonClass
    crossAccountFailoverAttempted := some context.crossAccountFailoverAttempted }

namespace HandlerState

def releaseBillingHoldBestEffort (s : HandlerState)
    (context : BillingReleaseFailureContext) : HandlerState :=
  { s with
    billingSession := none
    events := s.events ++
      (s.billingSession.map fun session => .asked (session.releaseHold context)).toList }

def returnReply (s : HandlerState) (reply : ProxyReply) : HandlerState :=
  { s with phase := .returned reply }

/-- A new identifier for the next attempt; the session key follows it when it was taken from
the old one. -/
def rotateRequestId (pending : PendingBillingSession) (requestId : String) :
    PendingBillingSession :=
  { pending with
    requestId := requestId
    sessionKey :=
      if pending.traceRequestId.isNone && pending.sessionKey = pending.requestId then requestId
      else pending.sessionKey }

section Failover

variable (config : HandlerConfig)

def releaseBillingHoldForCrossAccountFailover (s : HandlerState) (status : Nat)
    (errorCode : Option String) (reasonClass : String) : HandlerState :=
  let rotated := match s.billingSession with
    | some _ =>
      { s with
        pendingBillingSession := s.pendingBillingSession.map fun pending =>
          rotateRequestId pending (config.generateBillingRequestId s.generatedIds)
        generatedIds := s.generatedIds + 1 }
    | none => s
  rotated.releaseBillingHoldBestEffort {
    releaseReason := "cross_account_failover"
    upstreamStatusCode := status
    upstreamErrorCode := errorCode
    failoverAction := "cross_account_failover"
    failoverReasonClass := reasonClass
    crossAccountFailoverAttempted := true }

/-- A failed attempt: what can be done about it, and what is said of it. -/
structure Failure where
  reply : ProxyReply
  status : Nat
  errorCode : Option String
  sameAccountRetryable : Bool
  retryable : Bool
  failoverReasonClass : String
  releaseReason : String
  releaseReasonClass : String

/-- A failure is retried with the same account, with another one, or returned. -/
def fail (s : HandlerState) (a : Attempt) (failure : Failure) : HandlerState :=
  if config.enableRequestFailover && failure.sameAccountRetryable && a.beforeDeadline then
    { s with sameAccountRetryAttempt := s.sameAccountRetryAttempt + 1 }
  else if !config.forcedAccountSelection && config.enableRequestFailover &&
      failure.retryable && a.hasUntriedCandidate then
    { s.releaseBillingHoldForCrossAccountFailover config failure.status failure.errorCode
        failure.failoverReasonClass with
      didCrossAccountFailover := true
      lastFailure := some failure.reply
      phase := .selecting }
  else
    (s.releaseBillingHoldBestEffort {
      releaseReason := failure.releaseReason
      upstreamStatusCode := failure.status
      upstreamErrorCode := failure.errorCode
      failoverAction := "return_failure"
      failoverReasonClass := failure.releaseReasonClass
      crossAccountFailoverAttempted := s.didCrossAccountFailover }).returnReply failure.reply

end Failover

/-! ## Selection -/

section Selection

/-- The handler returns before an attempt is made. -/
def failSelection (s : HandlerState) (status : Nat) (reason code message : String) :
    HandlerState :=
  (s.releaseBillingHoldBestEffort {
    releaseReason := reason
    upstreamStatusCode := status
    upstreamErrorCode := none
    failoverAction := "return_failure"
    failoverReasonClass := reason
    crossAccountFailoverAttempted := s.didCrossAccountFailover }).returnReply
      ⟨status, .error code message⟩

def select (s : HandlerState) : Selection → HandlerState
  | .forcedAccountMissing =>
    s.failSelection 404 "no_upstream_account" "not_found" "resource not found"
  | .waitForRouteUpdate => s
  | .noAccount =>
    match s.lastFailure with
    | some reply =>
      (s.releaseBillingHoldBestEffort {
        releaseReason := "failover_exhausted"
        upstreamStatusCode := reply.status
        upstreamErrorCode := none
        failoverAction := "return_failure"
        failoverReasonClass := "failover_exhausted"
        crossAccountFailoverAttempted := s.didCrossAccountFailover }).returnReply reply
    | none =>
      s.failSelection 503 "no_upstream_account" "no_upstream_account"
        "no enabled upstream account is available"
  | .unhealthy => s
  | .invalidUpstreamUrl =>
    s.failSelection 502 "invalid_upstream_url" "invalid_upstream_url"
      "failed to build upstream URL"
  | .servedFromModelsCache body => s.returnReply ⟨200, .bytes body⟩
  | .account bridgeStreamResponse =>
    { s with phase := .attempting bridgeStreamResponse, sameAccountRetryAttempt := 0 }

end Selection

/-! ## Attempts -/

section Attempts

variable (codec : SerdeJson) (config : HandlerConfig)

/-- A hold is obtained when there is none; the reply is an error of the authorization. -/
def authorize (s : HandlerState) (authorizeReply : Except ErrorReply Uuid) :
    Except ErrorReply HandlerState :=
  match s.billingSession, s.pendingBillingSession with
  | none, some pending =>
    match authorizeReply with
    | .ok authorizationId =>
      let session := authorizeBillingSession pending config.stream authorizationId
      .ok { s with
        billingSession := some session
        events := s.events ++ [.authorized session] }
    | .error reply => .error reply
  | _, _ => .ok s

/-- The settlement of a body; one without usage is left to a task. Whatever comes of it, the
handler has no session any more. -/
def settle (s : HandlerState) (status : Nat) (body : Bytes) : HandlerState :=
  let commands := settleBillingIfNeeded codec s.billingSession status body
  if commands.isEmpty then s
  else if (extractUsageTokens codec body).isSome then
    { s with billingSession := none, events := s.events ++ commands.map .asked }
  else { s with billingSession := none, task := s.task ++ commands }

def succeed (s : HandlerState) (reply : ProxyReply) : HandlerState :=
  { s with phase := .returned reply, seenOkReported := true }

def decisionFor (a : Attempt) (source : UpstreamErrorSource) (status : Nat)
    (context : Option UpstreamErrorContext) : UpstreamErrorDecision :=
  match context with
  | some context => decideLearnedError a.learned source context
  | none => decideUpstreamStatus source status

def isFailoverRetryableError (a : Attempt) (source : UpstreamErrorSource) (status : Nat)
    (context : Option UpstreamErrorContext) : Bool :=
  (decisionFor a source status context).allowCrossAccountFailover ||
    (decisionFor a source status context).retryScope = .sameAccount

def shouldRetrySameAccountOnTransport (s : HandlerState) : Bool :=
  s.sameAccountRetryAttempt < config.sameAccountQuickRetryMax

def shouldRetrySameAccountOnStatus (s : HandlerState) (a : Attempt)
    (source : UpstreamErrorSource) (status : Nat) (context : Option UpstreamErrorContext) :
    Bool :=
  s.shouldRetrySameAccountOnTransport config &&
    (decisionFor a source status context).retryScope = .sameAccount &&
    (context.bind (·.errorCode) = some "previous_response_not_found" ||
      (500 ≤ status && status < 600))

/-- The failure of a response by its status. -/
def statusFailure (s : HandlerState) (a : Attempt) (status : Nat) (reply : ProxyReply)
    (context : Option UpstreamErrorContext) : Failure where
  reply := reply
  status := status
  errorCode := context.bind (·.errorCode)
  sameAccountRetryable := isFailoverRetryableError a .http status context &&
    s.shouldRetrySameAccountOnStatus config a .http status context
  retryable := isFailoverRetryableError a .http status context
  failoverReasonClass := "retryable_status"
  releaseReason := "upstream_request_failed"
  releaseReasonClass := "non_retryable_or_budget_exhausted"

/-- A stream that is bridged to a body. -/
def bridged (s : HandlerState) (a : Attempt) (status : Nat) (headers : UpstreamHeaders)
    (body : Bytes) : HandlerState :=
  let (reply, context, body) := bufferedCodexCompatResponse codec a.learned status headers body
  let s := s.settle codec status body
  if isSuccess status then s.succeed reply
  else s.fail config a (s.statusFailure config a status reply context)

/-- The failure of a stream before its first chunk is sent. -/
def preludeFailure (s : HandlerState) (a : Attempt) : StreamPreludeError → Failure
  | .upstreamErrorResponse context =>
    { reply := normalizeUpstreamErrorResponse a.learned .ssePrelude context
      status := context.status
      errorCode := context.errorCode
      sameAccountRetryable :=
        s.shouldRetrySameAccountOnStatus config a .ssePrelude context.status (some context)
      retryable := isFailoverRetryableError a .ssePrelude context.status (some context)
      failoverReasonClass := "stream_upstream_error"
      releaseReason := "stream_upstream_error"
      releaseReasonClass := "stream_upstream_error" }
  | .endOfStreamBeforeCommit | .upstreamReadFailed _ =>
    { reply := ⟨502, .error "upstream_transport_error" "upstream request failed"⟩
      status := 502
      errorCode := none
      sameAccountRetryable := s.shouldRetrySameAccountOnTransport config
      retryable := isFailoverRetryableError a .ssePrelude 502 none
      failoverReasonClass := "stream_prelude_error"
      releaseReason := "stream_prelude_error"
      releaseReasonClass := "stream_prelude_error" }

/-- A stream that is sent on as it comes; the task that sends it settles it. -/
def streamed (s : HandlerState) (a : Attempt) (status : Nat) (headers : UpstreamHeaders)
    (items : List UpstreamItem) : HandlerState :=
  match streamResponseWithFirstChunk codec status headers a.reads a.client items with
  | .ok observation =>
    { s.succeed ⟨status, .stream⟩ with
      billingSession := none
      task := s.task ++
        (s.billingSession.map fun session => finalizeStreamBilling session observation).getD [] }
  | .error err => s.fail config a (s.preludeFailure config a err)

def buffered (s : HandlerState) (a : Attempt) (status : Nat) (headers : UpstreamHeaders)
    (body : Bytes) : HandlerState :=
  if status = 503 then
    let (reply, context) := mapServiceUnavailable codec a.learned headers body
    s.fail config a (s.statusFailure config a status reply (some context))
  else
    let (reply, context) := bufferedResponse codec a.learned status headers body
    let s := s.settle codec status body
    if isSuccess status then s.succeed reply
    else s.fail config a (s.statusFailure config a status reply context)

def respond (s : HandlerState) (a : Attempt) (bridgeStreamResponse : Bool) (status : Nat)
    (headers : UpstreamHeaders) (contentTypeIndicatesStream : Bool)
    (items : List UpstreamItem) : HandlerState :=
  let isStream := contentTypeIndicatesStream || (config.stream && isSuccess status)
  let s : HandlerState := { s with
    billingSession := s.billingSession.map fun session : BillingSession =>
      { session with isStream := !bridgeStreamResponse && isStream } }
  if bridgeStreamResponse && isSuccess status then
    s.bridged codec config a status headers (bodyOf items)
  else if isStream && isSuccess status then s.streamed codec config a status headers items
  else s.buffered codec config a status headers (bodyOf items)

/-- One pass of the loop for an account. -/
def attempt (s : HandlerState) (bridgeStreamResponse : Bool) (a : Attempt) : HandlerState :=
  match s.authorize config a.authorizeReply with
  | .error reply => s.returnReply ⟨reply.status, .error reply.code reply.message⟩
  | .ok s =>
    match a.outcome with
    | .proxyUnavailable =>
      s.fail config a {
        reply := ⟨503, .error "proxy_unavailable" "outbound proxy is unavailable"⟩
        status := 503
        errorCode := none
        sameAccountRetryable := s.shouldRetrySameAccountOnTransport config
        retryable := false
        failoverReasonClass := "proxy_unavailable"
        releaseReason := "proxy_unavailable"
        releaseReasonClass := "proxy_unavailable" }
    | .transportError =>
      s.fail config a {
        reply := ⟨502, .error "upstream_transport_error" "upstream request failed"⟩
        status := 502
        errorCode := none
        sameAccountRetryable := s.shouldRetrySameAccountOnTransport config
        retryable := true
        failoverReasonClass := "transport_error"
        releaseReason := "transport_error"
        releaseReasonClass := "transport_error" }
    | .response status headers contentTypeIndicatesStream items =>
      s.respond codec config a bridgeStreamResponse status headers contentTypeIndicatesStream
        items

/-- The handler, and the task that it leaves behind. -/
def step (s : HandlerState) (input : HandlerInput) : HandlerState :=
  match s.phase, input with
  | .selecting, .select selection => s.select selection
  | .attempting bridgeStreamResponse, .attempt a => s.attempt codec config bridgeStreamResponse a
  | .returned _, .runTask => { s with events := s.events ++ s.task.map .asked, task := [] }
  | _, _ => s

/-- The handler at the start of its loop. -/
def init (pending : Option PendingBillingSession) : HandlerState where
  phase := .selecting
  pendingBillingSession := pending.map fun pending =>
    { pending with requestId := config.generateBillingRequestId 0 }
  billingSession := none
  generatedIds := 1
  sameAccountRetryAttempt := 0
  didCrossAccountFailover := false
  lastFailure := none
  events := []
  task := []
  seenOkReported := false

end Attempts

end HandlerState

end CodexPool
