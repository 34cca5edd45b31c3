import CodexPool.DataPlane.RouterOps
import CodexPool.Proxy.Headers
import CodexPool.Proxy.UpstreamError

/-!
# The time of an ejection

An upstream that limits the rate says in a header how long to wait, in seconds or as a date. An
account is ejected for as long as the upstream asks, where the time of an ejection for a used-up
quota has a maximum. Durations are in seconds, and so is the clock of the router.
-/

namespace CodexPool

/-! ## The header -/

/-- `str::parse::<u64>`: digits, after a plus sign or not. -/
def parseU64 (s : String) : Option Nat :=
  let digits := match s.toList with
    | '+' :: digits => digits
    | digits => digits
  if digits.isEmpty || !digits.all Char.isDigit then none
  else
    let value := digits.foldl (fun value c => value * 10 + (c.toNat - '0'.toNat)) 0
    if value < 2 ^ 64 then some value else none

def nanosPerSecond : Int := 1000000000

/-- The seconds to wait. Dates and the wall clock are in nanoseconds. -/
def extractRetryAfter (parseFromRfc2822 : String → Option Int) (utcNow : Int)
    (headers : HeaderMap) : Option Nat :=
  (headerText headers "retry-after").bind fun raw =>
    match parseU64 raw with
    | some seconds => some seconds
    | none =>
      (parseFromRfc2822 raw).bind fun target =>
        if target ≤ utcNow then none
        else some ((target - utcNow) / nanosPerSecond).toNat

def extractUpstreamRequestId (headers : HeaderMap) : Option String :=
  headerText headers "x-request-id"

/-- What the data plane reads off the headers of a response. -/
def UpstreamHeaders.ofHeaders (parseFromRfc2822 : String → Option Int) (utcNow : Int)
    (headers : HeaderMap) : UpstreamHeaders where
  retryAfter := extractRetryAfter parseFromRfc2822 utcNow headers
  upstreamRequestId := extractUpstreamRequestId headers

/-- The header asks to wait for that many seconds. -/
def RetryAfterAsks (parseFromRfc2822 : String → Option Int) (utcNow : Int)
    (headers : HeaderMap) (seconds : Nat) : Prop :=
  ∃ raw, headerText headers "retry-after" = some raw ∧
    (parseU64 raw = some seconds ∨
      parseU64 raw = none ∧ ∃ target, parseFromRfc2822 raw = some target ∧ utcNow < target ∧
        seconds = ((target - utcNow) / nanosPerSecond).toNat)

theorem extractRetryAfter_eq_some_iff {parseFromRfc2822 : String → Option Int} {utcNow : Int}
    {headers : HeaderMap} {seconds : Nat} :
    extractRetryAfter parseFromRfc2822 utcNow headers = some seconds ↔
      RetryAfterAsks parseFromRfc2822 utcNow headers seconds := by
  rw [extractRetryAfter, Option.bind_eq_some_iff]
  apply exists_congr
  intro raw
  apply and_congr_right
  intro _
  cases hseconds : parseU64 raw with
  | some seconds' => simp
  | none =>
      simp only [true_and, reduceCtorEq, false_or, Option.bind_eq_some_iff]
      apply exists_congr
      intro target
      apply and_congr_right
      intro _
      split_ifs with hpast
      · simp only [false_iff, not_and]
        intro hfuture
        exact absurd hpast (Int.not_le.2 hfuture)
      · rw [Option.some_inj, eq_comm]
        exact (and_iff_right (Int.not_le.1 hpast)).symm

/-! ## Durations -/

def quotaExhaustedEjectionMaxSec : Nat := 24 * 60 * 60

def rateLimitedEjectionMinSec : Nat := 30

def rateLimitedEjectionTtl (baseEjectionTtl : Nat) (errorContext : UpstreamErrorContext) : Nat :=
  max (errorContext.retryAfter.getD (max baseEjectionTtl rateLimitedEjectionMinSec))
    rateLimitedEjectionMinSec

/-! ## The ejection -/

/-- The last second that an instant can name. -/
def instantMaxSec : Nat := 2 ^ 63 - 1

/-- `Instant::now() + ttl`, `none` when the addition panics. -/
def instantAdd (now ttl : Nat) : Option Nat :=
  if now + ttl ≤ instantMaxSec then some (now + ttl) else none

/-- `Router::mark_unhealthy`, `none` when it panics. -/
def Router.tryMarkUnhealthy (r : Router) (accountId : Uuid) (ttl now : Nat) : Option Router :=
  if ttl = 0 then some r
  else (instantAdd now ttl).map fun deadline =>
    { r with health := Function.update r.health accountId (some deadline) }

theorem Router.tryMarkUnhealthy_eq_some_iff {r r' : Router} {accountId : Uuid} {ttl now : Nat}
    (hpositive : 0 < ttl) : r.tryMarkUnhealthy accountId ttl now = some r' ↔
      now + ttl ≤ instantMaxSec ∧ r' = r.markUnhealthy accountId ttl now := by
  rw [tryMarkUnhealthy, markUnhealthy, if_neg hpositive.ne', if_neg hpositive.ne', instantAdd]
  split_ifs with h
  · simp [h, eq_comm]
  · simp [h]

/-- A time to wait that is not above the maximum and ends at an instant that has a name. -/
def Bounded (maximum now seconds : Nat) : Prop :=
  seconds ≤ maximum ∧ now + seconds ≤ instantMaxSec

theorem bounded_max_iff (maximum now m n : Nat) :
    Bounded maximum now (max m n) ↔ Bounded maximum now m ∧ Bounded maximum now n := by
  unfold Bounded
  omega

theorem retryAfter_of_buildUpstreamErrorContext {codec : SerdeJson} {status : Nat}
    {headers : UpstreamHeaders} {body : Bytes} {errorContext : UpstreamErrorContext}
    (h : buildUpstreamErrorContext codec status headers body = some errorContext) :
    errorContext.retryAfter = headers.retryAfter := by
  unfold buildUpstreamErrorContext at h
  dsimp only at h
  split_ifs at h <;> exact (congrArg UpstreamErrorContext.retryAfter (Option.some.inj h)).symm

section RateLimited

variable (parseFromRfc2822 : String → Option Int) (utcNow : Int)
  (headers : HeaderMap) (maximum now baseEjectionTtl : Nat)

/-- Every time that the header can ask for is bounded, and so is what is taken without it. -/
def AskedBounded : Prop :=
  Bounded maximum now rateLimitedEjectionMinSec ∧
    (∀ seconds, RetryAfterAsks parseFromRfc2822 utcNow headers seconds →
      Bounded maximum now seconds) ∧
    ((∀ seconds, ¬RetryAfterAsks parseFromRfc2822 utcNow headers seconds) →
      Bounded maximum now baseEjectionTtl)

/-- The ejection for a limited rate is bounded by the maximum and its end has a name. -/
def EjectionBounded (errorContext : UpstreamErrorContext) (r : Router) (accountId : Uuid) :
    Prop :=
  rateLimitedEjectionTtl baseEjectionTtl errorContext ≤ maximum ∧
    r.tryMarkUnhealthy accountId (rateLimitedEjectionTtl baseEjectionTtl errorContext) now ≠ none

variable {parseFromRfc2822 utcNow headers maximum now baseEjectionTtl}

theorem rateLimitedEjectionTtl_pos (errorContext : UpstreamErrorContext) :
    0 < rateLimitedEjectionTtl baseEjectionTtl errorContext :=
  Nat.lt_of_lt_of_le (by decide) (Nat.le_max_right _ _)

theorem ejectionBounded_iff (errorContext : UpstreamErrorContext) (r : Router)
    (accountId : Uuid) : EjectionBounded maximum now baseEjectionTtl errorContext r accountId ↔
      Bounded maximum now (rateLimitedEjectionTtl baseEjectionTtl errorContext) := by
  apply and_congr_right
  intro _
  rw [Option.ne_none_iff_exists']
  simp only [Router.tryMarkUnhealthy_eq_some_iff (rateLimitedEjectionTtl_pos errorContext),
    exists_and_left, exists_eq, and_true]

/-- An ejection for a limited rate is bounded exactly if what the header asks for is. -/
theorem rate_limited_bounded_iff {codec : SerdeJson} {status : Nat} {body : Bytes}
    {errorContext : UpstreamErrorContext}
    (h : buildUpstreamErrorContext codec status
      (UpstreamHeaders.ofHeaders parseFromRfc2822 utcNow headers) body = some errorContext)
    (r : Router) (accountId : Uuid) :
    EjectionBounded maximum now baseEjectionTtl errorContext r accountId ↔
      AskedBounded parseFromRfc2822 utcNow headers maximum now baseEjectionTtl := by
  have hretry : errorContext.retryAfter = extractRetryAfter parseFromRfc2822 utcNow headers :=
    retryAfter_of_buildUpstreamErrorContext h
  rw [ejectionBounded_iff, rateLimitedEjectionTtl, hretry, bounded_max_iff, AskedBounded,
    and_comm]
  apply and_congr_right
  intro hmin
  simp only [← extractRetryAfter_eq_some_iff]
  cases extractRetryAfter parseFromRfc2822 utcNow headers with
  | none => simp [bounded_max_iff, hmin]
  | some seconds => simp

end RateLimited

/-- A codec that reads no body. -/
def noBodyCodec : SerdeJson where
  fromSlice _ := none
  toText _ := ""

def rateLimitedContext (retryAfter : String) : Option UpstreamErrorContext :=
  buildUpstreamErrorContext noBodyCodec 429
    (UpstreamHeaders.ofHeaders (fun _ => none) 0 [("retry-after", Bytes.ofAscii retryAfter)]) []

theorem retryAfterAsks_sixty {seconds : Nat}
    (h : RetryAfterAsks (fun _ => none) 0 [("retry-after", Bytes.ofAscii "60")] seconds) :
    seconds = 60 := by
  have hsixty : extractRetryAfter (fun _ => none) 0 [("retry-after", Bytes.ofAscii "60")] =
      some 60 := by decide +kernel
  exact Option.some.inj ((extractRetryAfter_eq_some_iff.2 h).symm.trans hsixty)

theorem rate_limited_bounded_sixty : ∃ errorContext,
    rateLimitedContext "60" = some errorContext ∧
      EjectionBounded 600 1000 30 errorContext (Router.new []) ⟨"a"⟩ := by
  cases h : rateLimitedContext "60" with
  | none => exact absurd h (by decide +kernel)
  | some errorContext =>
      refine ⟨errorContext, rfl, (rate_limited_bounded_iff h (Router.new []) ⟨"a"⟩).2 ?_⟩
      refine ⟨by simp [Bounded, rateLimitedEjectionMinSec, instantMaxSec], ?_, ?_⟩
      · intro seconds hseconds
        rw [retryAfterAsks_sixty hseconds]
        simp [Bounded, instantMaxSec]
      · intro _
        simp [Bounded, instantMaxSec]

/-- The largest number of 64 bits in the header is above every maximum of the data plane, and the
ejection panics. -/
theorem largest_retry_after_panics : ∃ errorContext,
    rateLimitedContext "18446744073709551615" = some errorContext ∧
      errorContext.errorClass = .rateLimited ∧
      quotaExhaustedEjectionMaxSec < rateLimitedEjectionTtl 30 errorContext ∧
      (Router.new []).tryMarkUnhealthy ⟨"a"⟩ (rateLimitedEjectionTtl 30 errorContext) 0 = none := by
  cases h : rateLimitedContext "18446744073709551615" with
  | none => exact absurd h (by decide +kernel)
  | some errorContext =>
      have hlargest : extractRetryAfter (fun _ => none) 0
          [("retry-after", Bytes.ofAscii "18446744073709551615")] = some (2 ^ 64 - 1) := by
        decide +kernel
      have hclass : (rateLimitedContext "18446744073709551615").map
          UpstreamErrorContext.errorClass = some .rateLimited := by decide +kernel
      have hretry : errorContext.retryAfter = some (2 ^ 64 - 1) :=
        (retryAfter_of_buildUpstreamErrorContext h).trans hlargest
      rw [h] at hclass
      have hseconds : rateLimitedEjectionTtl 30 errorContext = 2 ^ 64 - 1 := by
        rw [rateLimitedEjectionTtl, hretry]
        rfl
      refine ⟨errorContext, rfl, Option.some.inj hclass, ?_, ?_⟩
      · rw [hseconds]
        decide
      · rw [hseconds]
        rfl

end CodexPool
