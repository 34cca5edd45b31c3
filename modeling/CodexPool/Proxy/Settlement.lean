import CodexPool.Proxy.StreamTask
import CodexPool.Proxy.WsTracker

/-!
# Settlement of a response

A response is settled on one of three paths: as a body that was read to its end, as a stream
of events, or as an event on a socket. Each path asks the billing to capture some usage at
some service tier, or to release the hold of the request without a capture.
-/

namespace CodexPool

open Saturating

structure PendingBillingSession where
  tenantId : Uuid
  apiKeyId : Uuid
  requestId : String
  traceRequestId : Option String
  model : String
  requestedServiceTier : Option String
  sessionKey : String
  requestKind : String
  estimatedInputTokens : I64
deriving DecidableEq

/-- The session of a request that the control plane has authorized. -/
def authorizeBillingSession (pending : PendingBillingSession) (isStream : Bool)
    (authorizationId : Uuid) : BillingSession :=
  { tenantId := pending.tenantId
    apiKeyId := pending.apiKeyId
    requestId := pending.requestId
    model := pending.model
    requestedServiceTier := pending.requestedServiceTier
    effectiveServiceTier := none
    sessionKey := pending.sessionKey
    requestKind := pending.requestKind
    isStream := isStream
    estimatedInputTokens := pending.estimatedInputTokens
    authorizationId := authorizationId }

/-- What is asked of the billing: a settlement, which captures the usage and then releases the
hold, or a release without a capture. -/
inductive BillingCommand where
  | settle (session : BillingSession) (usage : UsageTokens)
      (effectiveServiceTier : Option String)
  | release (payload : BillingReleaseRequest)

/-- What is sent to the capture. -/
def BillingCommand.capturePayload? : BillingCommand → Option BillingCaptureRequest
  | .settle session usage effectiveServiceTier =>
    some (session.capturePayload usage effectiveServiceTier)
  | .release _ => none

/-- A release that gives its reason and what was done with the request. -/
def BillingSession.releaseFor (session : BillingSession) (releaseReason failoverAction : String) :
    BillingCommand :=
  .release { session.releasePayload with
    releaseReason := some releaseReason
    failoverAction := some failoverAction
    failoverReasonClass := some releaseReason }

/-- The usage that is taken for a response that has none. -/
def BillingSession.estimatedUsage (session : BillingSession) (estimatedOutputTokens : I64) :
    UsageTokens :=
  ⟨max session.estimatedInputTokens 0, 0, max estimatedOutputTokens 0, 0⟩

/-- The settlement of a body that was read to its end. -/
def settleBillingIfNeeded (codec : SerdeJson) (billingSession : Option BillingSession)
    (status : Nat) (body : Bytes) : List BillingCommand :=
  match billingSession with
  | none => []
  | some session =>
    if !isSuccess status then []
    else
      match extractUsageTokens codec body with
      | some usage => [.settle session usage session.effectiveServiceTier]
      | none =>
        let usage := session.estimatedUsage ((estimateResponseOutputTokens codec body).getD 0)
        if usage.inputTokens = 0 ∧ usage.outputTokens = 0 then
          [session.releaseFor "usage_missing_zero_estimate" "return_success"]
        else [.settle session usage session.effectiveServiceTier]

/-- The settlement of a stream that was read to its end. -/
def finalizeStreamBilling (session : BillingSession) (observation : StreamUsageObservation) :
    List BillingCommand :=
  let session := { session with
    effectiveServiceTier := session.effectiveServiceTier.or
      (observation.serviceTier.or session.requestedServiceTier) }
  match observation.usage.or (observation.estimatedOutputTokens.map session.estimatedUsage) with
  | some usage => [.settle session usage session.effectiveServiceTier]
  | none => [session.releaseFor "stream_usage_missing" "return_failure"]

def WsReleaseReason.text : WsReleaseReason → String
  | .responseIncomplete => "ws_response_incomplete"
  | .responseFailed => "ws_response_failed"
  | .upstreamError => "ws_upstream_error"

/-- The settlement of the responses that have ended on a socket. -/
def processWsPendingBillingActions (actions : List WsPendingBillingAction) :
    List BillingCommand :=
  actions.map fun
    | .capture session (some usage) => .settle session usage session.effectiveServiceTier
    | .capture session none => session.releaseFor "stream_usage_missing" "return_failure"
    | .release session releaseReason => session.releaseFor releaseReason.text "return_failure"

end CodexPool
