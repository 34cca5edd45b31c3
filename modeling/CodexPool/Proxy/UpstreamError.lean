import CodexPool.Lib.Text
import CodexPool.Responses.Store

/-!
# Errors of the upstream

The data plane reads a code and a message off the body of a response, and classifies it by
them and by the status. Under a status of success only the code and the message count: a
body that is no JSON text is its own message, and words in it are enough for a class.
-/

namespace CodexPool

inductive UpstreamErrorClass where
  | tokenInvalidated
  | authExpired
  | accountDeactivated
  | quotaExhausted
  | rateLimited
  | overloaded
  | upstreamUnavailable
  | transientServer
  | nonRetryableClient
  | unknown
deriving DecidableEq

/-- What is read off the headers of the upstream; the time to wait is in seconds. -/
structure UpstreamHeaders where
  retryAfter : Option Nat
  upstreamRequestId : Option String

structure UpstreamErrorContext where
  upstreamStatus : Nat
  status : Nat
  errorCode : Option String
  errorMessage : Option String
  rawError : Option String
  retryAfter : Option Nat
  upstreamRequestId : Option String
  errorClass : UpstreamErrorClass
deriving DecidableEq

section Details

def errorCodeOf (value : Json) : Option String :=
  (((value.get "error").bind (·.getStr "code")).or
    ((value.get "detail").bind (·.getStr "code"))).or (value.getStr "code")

def errorMessageOf (value : Json) : Option String :=
  (((((value.get "error").bind (·.getStr "message")).or
    ((value.get "detail").bind (·.getStr "message"))).or
    ((value.get "error").bind (·.getStr "detail"))).or
    (value.getStr "message")).or (value.getStr "detail")

def extractUpstreamRawError (body : Bytes) : Option String :=
  let raw := Text.trim (Bytes.fromUtf8Lossy body)
  if raw.isEmpty then none else some raw

theorem getD_extractUpstreamRawError (body : Bytes) :
    (extractUpstreamRawError body).getD "" = Text.trim (Bytes.fromUtf8Lossy body) := by
  rw [extractUpstreamRawError]
  split_ifs with h
  · exact (String.isEmpty_iff.1 h).symm
  · rfl

def extractUpstreamErrorDetails (codec : SerdeJson) (body : Bytes) :
    Option String × Option String :=
  match codec.fromSlice body with
  | some value => (errorCodeOf value, errorMessageOf value)
  | none => (none, extractUpstreamRawError body)

end Details

/-! ## Classes -/

def accountDeactivatedCodes : List String := ["account_deactivated", "deactivated_workspace"]

def authExpiredCodes : List String :=
  ["refresh_token_reused", "refresh_token_revoked", "auth_expired", "token_expired",
    "expired_token", "invalid_token"]

def quotaExhaustedCodes : List String :=
  ["usage_limit", "insufficient_quota", "quota_exceeded", "billing_hard_limit_reached"]

def rateLimitedCodes : List String := ["rate_limited", "rate_limit_exceeded"]

def overloadedCodes : List String :=
  ["server_is_overloaded", "server_overloaded", "engine_overloaded", "slow_down"]

def nonRetryableCodes : List String :=
  ["previous_response_not_found", "websocket_connection_limit_reached"]

def quotaExhaustedPhrases : List String :=
  ["usage limit", "insufficient quota", "quota", "billing details",
    "start a free trial of plus"]

def authExpiredPhrases : List String :=
  ["access token could not be refreshed", "logged out", "signed in to another account",
    "failed to extract accountid from token"]

def overloadedPhrases : List String :=
  ["server is overloaded", "engine is currently overloaded", "slow_down"]

def mentions (message : String) (phrases : List String) : Bool :=
  phrases.any fun phrase => Text.contains message phrase

/-- The class by the code and the message, both in lower case. -/
def classOfDetails (code message : String) : Option UpstreamErrorClass :=
  if code = "token_invalidated" then some .tokenInvalidated
  else if code ∈ accountDeactivatedCodes then some .accountDeactivated
  else if code ∈ authExpiredCodes then some .authExpired
  else if code ∈ quotaExhaustedCodes then some .quotaExhausted
  else if code ∈ rateLimitedCodes then some .rateLimited
  else if code ∈ overloadedCodes then some .overloaded
  else if code ∈ nonRetryableCodes then some .nonRetryableClient
  else if mentions message quotaExhaustedPhrases then some .quotaExhausted
  else if Text.contains message "rate limit" then some .rateLimited
  else if mentions message authExpiredPhrases then some .authExpired
  else if mentions message overloadedPhrases then some .overloaded
  else none

def classOfStatus (status : Nat) (code : String) : UpstreamErrorClass :=
  if status = 401 then .authExpired
  else if status = 402 then .quotaExhausted
  else if status = 403 then .nonRetryableClient
  else if status = 429 then .rateLimited
  else if status = 503 then
    if code = "server_is_overloaded" ∨ code = "slow_down" then .overloaded
    else .upstreamUnavailable
  else if 500 ≤ status ∧ status < 600 then .transientServer
  else if 400 ≤ status ∧ status < 500 then .nonRetryableClient
  else .unknown

def classifyUpstreamError (status : Nat) (errorCode errorMessage : Option String) :
    UpstreamErrorClass :=
  let code := Text.toAsciiLowercase (errorCode.getD "")
  let message := Text.toAsciiLowercase (errorMessage.getD "")
  (classOfDetails code message).getD (classOfStatus status code)

def statusForErrorClass (errorClass : UpstreamErrorClass) (fallback : Nat) : Nat :=
  match errorClass with
  | .tokenInvalidated | .authExpired => 401
  | .accountDeactivated => 403
  | .quotaExhausted | .rateLimited => 429
  | .overloaded | .upstreamUnavailable => 503
  | .transientServer => 502
  | .nonRetryableClient | .unknown => fallback

/-- The error of a response, `none` when it is a success as far as it can be seen. -/
def buildUpstreamErrorContext (codec : SerdeJson) (status : Nat) (headers : UpstreamHeaders)
    (body : Bytes) : Option UpstreamErrorContext :=
  let details := extractUpstreamErrorDetails codec body
  if isSuccess status && details.1.isNone && details.2.isNone then none
  else
    let errorClass := classifyUpstreamError status details.1 details.2
    if isSuccess status && errorClass = .unknown then none
    else
      some {
        upstreamStatus := status
        status := if isSuccess status then statusForErrorClass errorClass 502 else status
        errorCode := details.1
        errorMessage := details.2
        rawError := extractUpstreamRawError body
        retryAfter := headers.retryAfter
        upstreamRequestId := headers.upstreamRequestId
        errorClass := errorClass }

/-! ## Decisions -/

inductive UpstreamErrorSource where
  | http
  | wsHandshake
  | wsPrelude
  | ssePrelude
deriving DecidableEq

inductive RetryScope where
  | none
  | sameAccount
  | crossAccount
deriving DecidableEq

structure UpstreamErrorDecision where
  retryScope : RetryScope
  allowCrossAccountFailover : Bool
  trackInvalidRequest : Bool
  outwardCode : String
  outwardMessage : String
deriving DecidableEq

def UpstreamErrorSource.supportsServerRetries : UpstreamErrorSource → Bool
  | .http | .wsHandshake | .ssePrelude => true
  | .wsPrelude => false

def decideUpstreamStatus (source : UpstreamErrorSource) (status : Nat) :
    UpstreamErrorDecision :=
  if status = 401 then
    ⟨.crossAccount, true, false, "auth_expired",
      "upstream account authentication expired; retry later with another account"⟩
  else if status = 402 then
    ⟨.crossAccount, true, false, "quota_exhausted",
      "upstream account quota is exhausted; retry later"⟩
  else if status = 429 then
    ⟨.crossAccount, true, false, "rate_limited",
      "upstream account is rate limited; retry later"⟩
  else if status = 503 ∧ source.supportsServerRetries then
    ⟨.sameAccount, true, false, "upstream_unavailable", "upstream service is unavailable"⟩
  else if (500 ≤ status ∧ status < 600) ∧ source.supportsServerRetries then
    ⟨.sameAccount, true, false, "upstream_request_failed", "upstream request failed"⟩
  else if 400 ≤ status ∧ status < 500 then
    ⟨.none, false, true, "upstream_request_failed", "upstream request failed"⟩
  else ⟨.none, false, false, "upstream_request_failed", "upstream request failed"⟩

/-- Errors of the server are retried, where the source allows it. -/
def serverErrorDecision (source : UpstreamErrorSource) (outwardCode outwardMessage : String) :
    UpstreamErrorDecision :=
  if source.supportsServerRetries then
    ⟨.sameAccount, true, false, outwardCode, outwardMessage⟩
  else ⟨.none, false, false, outwardCode, outwardMessage⟩

/-- The decision for an error that no template was learned for. -/
def decideUpstreamError (source : UpstreamErrorSource)
    (errorContext : Option UpstreamErrorContext) : UpstreamErrorDecision :=
  match errorContext with
  | none => decideUpstreamStatus source 502
  | some context =>
    if source = .wsPrelude ∧
        context.errorCode = some "websocket_connection_limit_reached" then
      ⟨.sameAccount, false, false, "websocket_connection_limit_reached",
        "upstream websocket connection hit its lifetime limit"⟩
    else if source ≠ .wsHandshake ∧
        context.errorCode = some "previous_response_not_found" then
      ⟨.sameAccount, false, false, "previous_response_not_found",
        "upstream continuation anchor expired"⟩
    else
      match context.errorClass with
      | .tokenInvalidated =>
        ⟨.crossAccount, true, false, "token_invalidated",
          "upstream account token has been invalidated"⟩
      | .authExpired =>
        ⟨.crossAccount, true, false, "auth_expired",
          "upstream account authentication expired; retry later with another account"⟩
      | .accountDeactivated =>
        ⟨.crossAccount, true, false, "account_deactivated", "upstream account is deactivated"⟩
      | .quotaExhausted =>
        ⟨.crossAccount, true, false, "quota_exhausted",
          "upstream account quota is exhausted; retry later"⟩
      | .rateLimited =>
        ⟨.crossAccount, true, false, "rate_limited",
          "upstream account is rate limited; retry later"⟩
      | .overloaded =>
        serverErrorDecision source "server_overloaded" "upstream service is overloaded"
      | .upstreamUnavailable =>
        serverErrorDecision source "upstream_unavailable" "upstream service is unavailable"
      | .transientServer =>
        serverErrorDecision source "upstream_request_failed" "upstream request failed"
      | .nonRetryableClient =>
        ⟨.none, false, true, "upstream_request_failed", "upstream request failed"⟩
      | .unknown => decideUpstreamStatus source context.status

/-! ## Successes -/

/-- The codes that are errors under any status. -/
def errorCodes : List String :=
  "token_invalidated" :: accountDeactivatedCodes ++ authExpiredCodes ++ quotaExhaustedCodes ++
    rateLimitedCodes ++ overloadedCodes ++ nonRetryableCodes

/-- The words that make a message an error under any status. -/
def errorPhrases : List String :=
  quotaExhaustedPhrases ++ ["rate limit"] ++ authExpiredPhrases ++ overloadedPhrases

/-- The code is none of an error, and the message has none of the words of one. -/
def Harmless (details : Option String × Option String) : Prop :=
  Text.toAsciiLowercase (details.1.getD "") ∉ errorCodes ∧
    ∀ phrase ∈ errorPhrases,
      Text.contains (Text.toAsciiLowercase (details.2.getD "")) phrase = false

theorem mentions_eq_false_iff (message : String) (phrases : List String) :
    mentions message phrases = false ↔
      ∀ phrase ∈ phrases, Text.contains message phrase = false := by
  simp [mentions]

theorem ite_some_eq_none_iff {α : Type*} {p : Prop} [Decidable p] {a : α} {o : Option α} :
    (if p then some a else o) = none ↔ ¬ p ∧ o = none := by
  split_ifs with h <;> simp [h]

theorem classOfDetails_eq_none_iff (code message : String) :
    classOfDetails code message = none ↔
      code ∉ errorCodes ∧ ∀ phrase ∈ errorPhrases, Text.contains message phrase = false := by
  have hphrases : (∀ phrase ∈ errorPhrases, Text.contains message phrase = false) ↔
      (∀ phrase ∈ quotaExhaustedPhrases, Text.contains message phrase = false) ∧
        Text.contains message "rate limit" = false ∧
        (∀ phrase ∈ authExpiredPhrases, Text.contains message phrase = false) ∧
        ∀ phrase ∈ overloadedPhrases, Text.contains message phrase = false := by
    rw [errorPhrases, List.forall_mem_append, List.forall_mem_append, List.forall_mem_append,
      List.forall_mem_singleton, and_assoc, and_assoc]
  rw [hphrases]
  simp only [classOfDetails, ite_some_eq_none_iff, Bool.not_eq_true, mentions_eq_false_iff,
    errorCodes, List.mem_append, List.mem_cons, not_or, and_true, and_assoc]

theorem classOfStatus_of_isSuccess {status : Nat} (h : isSuccess status = true)
    (code : String) : classOfStatus status code = .unknown := by
  simp only [isSuccess, Bool.and_eq_true, decide_eq_true_eq] at h
  simp only [classOfStatus]
  split_ifs <;> first | rfl | omega

theorem ite_some_ne {α : Type*} {p : Prop} [Decidable p] {a b : α} {o : Option α} (hab : a ≠ b)
    (ho : o ≠ some b) : (if p then some a else o) ≠ some b := by
  split_ifs
  · simpa using hab
  · exact ho

theorem classOfDetails_ne_unknown (code message : String) :
    classOfDetails code message ≠ some .unknown := by
  unfold classOfDetails
  iterate 11 refine ite_some_ne (by decide) ?_
  simp

theorem classifyUpstreamError_eq_unknown_iff {status : Nat} (h : isSuccess status = true)
    (details : Option String × Option String) :
    classifyUpstreamError status details.1 details.2 = .unknown ↔ Harmless details := by
  rw [Harmless, ← classOfDetails_eq_none_iff, classifyUpstreamError,
    classOfStatus_of_isSuccess h]
  generalize hc : classOfDetails _ _ = c
  cases c with
  | none => simp
  | some errorClass =>
      have hne := classOfDetails_ne_unknown (Text.toAsciiLowercase (details.1.getD ""))
        (Text.toAsciiLowercase (details.2.getD ""))
      rw [hc] at hne
      simpa using hne

instance : DecidablePred Harmless := fun _ => inferInstanceAs (Decidable (_ ∧ _))

theorem harmless_none : Harmless (none, none) := by decide +kernel

theorem harmless_raw {body : Bytes}
    (h : ∀ phrase ∈ errorPhrases, (Text.toAsciiLowercase
      (Text.trim (Bytes.fromUtf8Lossy body))).toList.tails.any phrase.toList.isPrefixOf = false) :
    Harmless (none, extractUpstreamRawError body) := by
  refine ⟨harmless_none.1, fun phrase hphrase => ?_⟩
  rw [getD_extractUpstreamRawError]
  exact h phrase hphrase

theorem buildUpstreamErrorContext_eq_none_iff (codec : SerdeJson) {status : Nat}
    (h : isSuccess status = true) (headers : UpstreamHeaders) (body : Bytes) :
    buildUpstreamErrorContext codec status headers body = none ↔
      Harmless (extractUpstreamErrorDetails codec body) := by
  rw [buildUpstreamErrorContext]
  by_cases hnone : (isSuccess status && (extractUpstreamErrorDetails codec body).1.isNone &&
      (extractUpstreamErrorDetails codec body).2.isNone) = true
  · simp only [h, Bool.true_and, Bool.and_eq_true, Option.isNone_iff_eq_none] at hnone
    have hdetails : extractUpstreamErrorDetails codec body = (none, none) :=
      Prod.ext hnone.1 hnone.2
    simp [hdetails, h, harmless_none]
  · rw [← classifyUpstreamError_eq_unknown_iff h]
    simp only [if_neg hnone]
    simp only [h, Bool.true_and, decide_eq_true_eq]
    split_ifs with hclass <;> simp [hclass]

end CodexPool
