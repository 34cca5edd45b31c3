import CodexPool.Proxy.UpstreamError
import CodexPool.Proxy.WsTracker

/-!
# Sessions on a socket

The proxy of a socket reads from the client and from the upstream in any order. An error of
the upstream that may be retried replaces the connection to the upstream: with a request
that has not started, which is sent again on the new connection, or, when no request is
unfinished, without one.
-/

namespace CodexPool

open WsLogicalResponseTracker

structure WsSession where
  tracker : WsLogicalResponseTracker
  pendingReplayRequestTexts : List String
  accountId : Uuid
  /-- How often the connection to the upstream was replaced. -/
  connection : Nat
  ended : Bool

/-- The answer to a request of the client by the policies and the billing. -/
inductive Admission where
  | refused
  | admitted (billingSession : Option BillingSession)

/-- What comes of the calls that are made for an error of the upstream: the account of a new
connection, the billing session of the request that is sent again, and whether it could be
sent; and the account of a new connection without a request. -/
structure FailoverReplies where
  nextUpstream : Option Uuid
  retriedSession : Option (Option BillingSession)
  replaySucceeded : Bool
  nextUpstreamWithoutReplay : Option Uuid

inductive WsSessionInput where
  | downstreamText (text : String) (admission : Admission) (downstreamOpen upstreamOpen : Bool)
      (now : Nat)
  | downstreamOther (upstreamOpen : Bool)
  | downstreamClosed
  | upstreamText (text : String) (replies : FailoverReplies) (downstreamOpen : Bool) (now : Nat)
  | upstreamOther (downstreamOpen : Bool)
  | upstreamClosed

section Errors

variable (codec : SerdeJson)

def buildWsFailoverErrorContext (value : Json) : Option UpstreamErrorContext :=
  if isWsErrorEvent value then
    buildUpstreamErrorContext codec 400 ⟨none, none⟩ (codec.toText value).toUTF8.toList
  else none

/-- The error of a text of the upstream; one that is no JSON text is an error itself. -/
def failoverErrorContext (text : String) : Option UpstreamErrorContext :=
  match codec.fromStr text with
  | some value => buildWsFailoverErrorContext codec value
  | none => buildUpstreamErrorContext codec 400 ⟨none, none⟩ text.toUTF8.toList

def wsRetryScopeOnError (errorContext : UpstreamErrorContext) : RetryScope :=
  (decideUpstreamError .wsPrelude (some errorContext)).retryScope

/-- A request that continues a response which is not found is sent without it. -/
def rewriteWsRetryRequestText (originalRequestText : String)
    (errorContext : UpstreamErrorContext) : Option String :=
  if errorContext.errorCode ≠ some "previous_response_not_found" then some originalRequestText
  else
    (codec.fromStr originalRequestText).map fun value =>
      codec.toText (if value.getStr "type" = some "response.create" then
        value.remove "previous_response_id" else value)

def buildRetriedWsTrackedRequest (tracked : WsTrackedResponse)
    (errorContext : UpstreamErrorContext) (retriedSession : Option (Option BillingSession)) :
    Option WsTrackedResponse :=
  match tracked.replayRequestTexts.getLast? with
  | none => none
  | some originalRequestText =>
    match rewriteWsRetryRequestText codec originalRequestText errorContext with
    | none => none
    | some retriedRequestText =>
      if (codec.fromStr retriedRequestText).isNone then none
      else
        retriedSession.map fun billingSession =>
          { tracked with
            billingSession := billingSession
            replayRequestTexts := tracked.replayRequestTexts.dropLast ++ [retriedRequestText]
            responseStarted := false }

end Errors

/-! ## Steps -/

namespace WsSession

def new (accountId : Uuid) : WsSession := ⟨.empty, [], accountId, 0, false⟩

section Steps

variable (codec : SerdeJson) (order : VisitOrder)

def registerText (s : WsSession) (text : String) (admission : Admission)
    (downstreamOpen upstreamOpen : Bool) (now : Nat) : WsSession :=
  let sent (s : WsSession) : WsSession := { s with ended := !upstreamOpen }
  match codec.fromStr text with
  | none => sent s
  | some value =>
    match extractWsLogicalRequestSeed value now with
    | none =>
      sent { s with pendingReplayRequestTexts := s.pendingReplayRequestTexts ++ [text] }
    | some seed =>
      match admission with
      | .refused => { s with ended := !downstreamOpen }
      | .admitted billingSession =>
        sent { s with
          tracker := s.tracker.registerLogicalRequest seed billingSession
            (s.pendingReplayRequestTexts ++ [text])
          pendingReplayRequestTexts := [] }

/-- The request that is to be sent again after an error. -/
def originalRequest (s : WsSession) (text : String) : Option WsTrackedResponse :=
  match codec.fromStr text with
  | some value => s.tracker.findRetryableRequest order value
  | none => s.tracker.latestUnstartedRequest order

def withoutOriginal (s : WsSession) (text : String) : WsLogicalResponseTracker :=
  match codec.fromStr text with
  | some value => (s.tracker.takeRetryableRequest order value).2
  | none => (s.tracker.takeLatestUnstartedRequest order).2

/-- The account of the new connection. -/
def nextAccount (s : WsSession) (scope : RetryScope) (next : Option Uuid) : Option Uuid :=
  match scope with
  | .none => none
  | .sameAccount => next.map fun _ => s.accountId
  | .crossAccount => next

/-- Replaces the connection and sends a request again, if all that is needed for it
succeeds. Gives the request as it is sent too. -/
def replay (s : WsSession) (text : String) (errorContext : UpstreamErrorContext)
    (replies : FailoverReplies) : Option (WsTrackedResponse × WsSession) :=
  match s.originalRequest codec order text,
      s.nextAccount (wsRetryScopeOnError errorContext) replies.nextUpstream with
  | some original, some accountId =>
    match buildRetriedWsTrackedRequest codec original errorContext replies.retriedSession with
    | none => none
    | some retried =>
      if replies.replaySucceeded then
        some (retried, { s with
          tracker := (s.withoutOriginal codec order text).registerTrackedRequest retried
          accountId := accountId
          connection := s.connection + 1 })
      else none
  | _, _ => none

def rotate (s : WsSession) (errorContext : UpstreamErrorContext) (replies : FailoverReplies) :
    WsSession :=
  if s.tracker.hasUnfinishedRequests then s
  else
    match s.nextAccount (wsRetryScopeOnError errorContext)
        replies.nextUpstreamWithoutReplay with
    | some accountId => { s with accountId := accountId, connection := s.connection + 1 }
    | none => s

/-- The text is observed, its billing actions are drained, and the client gets it. -/
def forward (s : WsSession) (text : String) (now : Nat) : WsSession :=
  { s with
    tracker := { (s.tracker.observeUpstreamText codec text now).1 with
      pendingBillingActions := [] } }

def upstreamText (s : WsSession) (text : String) (replies : FailoverReplies)
    (downstreamOpen : Bool) (now : Nat) : WsSession :=
  let errorContext := failoverErrorContext codec text
  match errorContext.bind fun context => s.replay codec order text context replies with
  | some (_, s) => s
  | none =>
    let s := s.forward codec text now
    if !downstreamOpen then { s with ended := true }
    else
      match errorContext with
      | some context => s.rotate context replies
      | none => s

def step (s : WsSession) (input : WsSessionInput) : WsSession :=
  if s.ended then s
  else
    match input with
    | .downstreamText text admission downstreamOpen upstreamOpen now =>
      s.registerText codec text admission downstreamOpen upstreamOpen now
    | .downstreamOther upstreamOpen => { s with ended := !upstreamOpen }
    | .downstreamClosed => { s with ended := true }
    | .upstreamText text replies downstreamOpen now =>
      s.upstreamText codec order text replies downstreamOpen now
    | .upstreamOther downstreamOpen => { s with ended := !downstreamOpen }
    | .upstreamClosed => { s with ended := true }

end Steps

end WsSession

end CodexPool
