import CodexPool.ControlPlane.AccountMaps
import CodexPool.ControlPlane.RoutingPlan
import CodexPool.Lib.Saturating
import CodexPool.Responses.Store
import Mathlib.Data.Rat.Floor
import Mathlib.Data.List.Forall2

/-!
# Answers of the OAuth and usage endpoints

What the client makes of a decoded answer: the tokens and their time of expiry, the profile
that the claims of the tokens give, and the windows of the rate limits. The numbers of an
answer are 64-bit integers; adding one to the clock panics where the sum is no date, and so
does a sum of integers that does not fit where the build checks overflows. A panic is `none`.
-/

namespace CodexPool

open Saturating

/-! ## Dates -/

/-- The dates of the calendar, in microseconds from the epoch. -/
abbrev UtcDateTime := Bounded (-8334601228800000000) 8210266876799999999

/-- `Duration::seconds`, in microseconds. -/
def durationSeconds (secs : I64) : Option Int :=
  if -9223372036854775 ≤ secs.val ∧ secs.val ≤ 9223372036854775 then some (secs.val * 1000000)
  else none

/-- The sum of a date and a duration. -/
def UtcDateTime.add (date : UtcDateTime) (duration : Int) : Option UtcDateTime :=
  if h : -8334601228800000000 ≤ date.val + duration ∧
      date.val + duration ≤ 8210266876799999999 then
    some ⟨date.val + duration, h.1, h.2⟩
  else none

/-- `DateTime::from_timestamp` without nanoseconds. -/
def UtcDateTime.fromTimestamp (secs : I64) : Option UtcDateTime :=
  if h : -8334601228800 ≤ secs.val ∧ secs.val ≤ 8210266876799 then
    some ⟨secs.val * 1000000, by omega, by omega⟩
  else none

/-! ## The claims of a token -/

/-- What the parser of tokens takes from libraries. -/
structure TokenParser where
  urlSafeNoPad : String → Option Bytes
  codec : SerdeJson
  parseFromRfc3339 : String → Option DateTime

def claimString (claims : Json) (keys : List String) : Option String :=
  keys.findSome? fun key => Text.trimmed? (claims.getStr key)

def claimBool (claims : Json) (keys : List String) : Option Bool :=
  keys.findSome? fun key => (claims.get key).bind Json.asBool

def claimArray (claims : Json) (keys : List String) : Option (List Json) :=
  keys.findSome? fun key => (claims.get key).bind Json.asArray

def chatgptAccountIdKeys : List String :=
  ["chatgpt_account_id", "chatgptAccountId", "account_id", "accountId"]

def chatgptUserIdKeys : List String := ["chatgpt_user_id", "chatgptUserId", "user_id", "userId"]

def chatgptPlanTypeKeys : List String :=
  ["chatgpt_plan_type", "chatgptPlanType", "plan_type", "planType", "plan"]

structure OAuthIdTokenClaims where
  email : Option String
  oauthSubject : Option String
  oauthIdentityProvider : Option String
  emailVerified : Option Bool
  chatgptAccountId : Option String
  chatgptUserId : Option String
  chatgptPlanType : Option String
  chatgptSubscriptionActiveStart : Option DateTime
  chatgptSubscriptionActiveUntil : Option DateTime
  chatgptSubscriptionLastChecked : Option DateTime
  organizations : Option (List Json)
  groups : Option (List Json)
  rawClaims : Json

structure OAuthAccessTokenClaims where
  oauthSubject : Option String
  email : Option String
  emailVerified : Option Bool
  chatgptAccountId : Option String
  chatgptAccountUserId : Option String
  chatgptComputeResidency : Option String
  chatgptPlanType : Option String
  chatgptUserId : Option String

namespace TokenParser

variable (parser : TokenParser)

def claimDatetime (claims : Json) (keys : List String) : Option DateTime :=
  keys.findSome? fun key => (Text.trimmed? (claims.getStr key)).bind parser.parseFromRfc3339

/-- The second segment of a token, decoded. -/
def tokenClaims (token : String) : Option Json :=
  (token.toList.splitOn '.')[1]?.bind fun payload =>
    (parser.urlSafeNoPad (String.ofList payload)).bind parser.codec.fromSlice

def nestedAuthClaims (claims : Json) : Option Json :=
  (claims.get "https://api.openai.com/auth").filter Json.isObject

def nestedProfileClaims (claims : Json) : Option Json :=
  (claims.get "https://api.openai.com/profile").filter Json.isObject

/-- The claim in the nested object, else in the claims themselves. -/
def nestedOr {α : Type*} (read : Json → List String → Option α) (nested : Option Json)
    (claims : Json) (keys : List String) : Option α :=
  (nested.bind fun value => read value keys).or (read claims keys)

def parseIdTokenClaims (idToken : String) : Option OAuthIdTokenClaims := do
  let claims ← parser.tokenClaims idToken
  let nested := nestedAuthClaims claims
  some
    { email := claimString claims ["email"]
      oauthSubject := claimString claims ["sub"]
      oauthIdentityProvider := claimString claims ["auth_provider"]
      emailVerified := claimBool claims ["email_verified"]
      chatgptAccountId := nestedOr claimString nested claims chatgptAccountIdKeys
      chatgptUserId := nestedOr claimString nested claims chatgptUserIdKeys
      chatgptPlanType := nestedOr claimString nested claims chatgptPlanTypeKeys
      chatgptSubscriptionActiveStart := nested.bind fun value => parser.claimDatetime value
        ["chatgpt_subscription_active_start", "chatgptSubscriptionActiveStart"]
      chatgptSubscriptionActiveUntil := nested.bind fun value => parser.claimDatetime value
        ["chatgpt_subscription_active_until", "chatgptSubscriptionActiveUntil"]
      chatgptSubscriptionLastChecked := nested.bind fun value => parser.claimDatetime value
        ["chatgpt_subscription_last_checked", "chatgptSubscriptionLastChecked"]
      organizations := nested.bind fun value => claimArray value ["organizations"]
      groups := nested.bind fun value => claimArray value ["groups"]
      rawClaims := claims }

def parseAccessTokenClaims (accessToken : String) : Option OAuthAccessTokenClaims := do
  let claims ← parser.tokenClaims accessToken
  let nested := nestedAuthClaims claims
  let profile := nestedProfileClaims claims
  some
    { oauthSubject := claimString claims ["sub"]
      email := nestedOr claimString profile claims ["email"]
      emailVerified := nestedOr claimBool profile claims ["email_verified"]
      chatgptAccountId := nested.bind fun value => claimString value chatgptAccountIdKeys
      chatgptAccountUserId := nested.bind fun value =>
        claimString value ["chatgpt_account_user_id", "chatgptAccountUserId"]
      chatgptComputeResidency := nested.bind fun value =>
        claimString value ["chatgpt_compute_residency", "chatgptComputeResidency"]
      chatgptPlanType := nested.bind fun value => claimString value chatgptPlanTypeKeys
      chatgptUserId := nested.bind fun value => claimString value chatgptUserIdKeys }

end TokenParser

/-! ## Token answers -/

structure OAuthTokenEndpointResponse where
  accessToken : String
  refreshToken : Option String
  expiresIn : Option I64
  tokenType : Option String
  scope : Option String
  chatgptAccountId : Option String
  idToken : Option String

structure OAuthCodeExchangeInfo where
  accessToken : String
  refreshToken : Option String
  expiresAt : UtcDateTime
  tokenType : Option String
  scope : Option String
  chatgptAccountId : Option String
  idTokenClaims : Option OAuthIdTokenClaims
  idTokenRaw : Option String
  rawPayload : Json

/-- The tokens of a refresh, with the two fields of the answer that are not stored. -/
structure OAuthRefreshedTokens extends OAuthTokenInfo where
  tokenType : Option String
  scope : Option String

def defaultOauthExpiresInSec : I64 := 3600

namespace OAuthTokenEndpointResponse

variable (payload : OAuthTokenEndpointResponse)

/-- The payload as it is printed again. -/
def toValue : Json :=
  .ofFields
    [("access_token", .str payload.accessToken),
     ("refresh_token", .ofOption .str payload.refreshToken),
     ("expires_in", .ofOption (fun n => .int n.val) payload.expiresIn),
     ("token_type", .ofOption .str payload.tokenType),
     ("scope", .ofOption .str payload.scope),
     ("chatgpt_account_id", .ofOption .str payload.chatgptAccountId),
     ("id_token", .ofOption .str payload.idToken)]

/-- The lifetime of the tokens in seconds. -/
def lifetime : I64 := (payload.expiresIn.filter (0 < ·)).getD defaultOauthExpiresInSec

/-- `Utc::now() + Duration::seconds(expires_in)`. -/
def expiresAt (now : UtcDateTime) : Option UtcDateTime :=
  (durationSeconds payload.lifetime).bind now.add

variable (parser : TokenParser) (now : UtcDateTime)

/-- The end of `exchange_authorization_code`, after the payload is decoded. -/
def exchanged : Option OAuthCodeExchangeInfo :=
  let idTokenClaims := payload.idToken.bind parser.parseIdTokenClaims
  (payload.expiresAt now).map fun expiresAt =>
    { accessToken := payload.accessToken
      refreshToken := payload.refreshToken
      expiresAt
      tokenType := payload.tokenType
      scope := payload.scope
      chatgptAccountId := payload.chatgptAccountId.or (idTokenClaims.bind (·.chatgptAccountId))
      idTokenClaims
      idTokenRaw := payload.idToken
      rawPayload := payload.toValue }

/-- The end of `refresh_token`, after the payload is decoded: `presented` is the token that
was sent, `fetchWorkspaceName` what the backend says of an access token and an account. -/
def refreshed (presented : String) (fetchWorkspaceName : String → Option String → Option String) :
    Option OAuthRefreshedTokens :=
  let idTokenClaims := payload.idToken.bind parser.parseIdTokenClaims
  let accessTokenClaims := parser.parseAccessTokenClaims payload.accessToken
  let chatgptAccountId := (payload.chatgptAccountId.or
    (idTokenClaims.bind (·.chatgptAccountId))).or (accessTokenClaims.bind (·.chatgptAccountId))
  let chatgptPlanType := (idTokenClaims.bind (·.chatgptPlanType)).or
    (accessTokenClaims.bind (·.chatgptPlanType))
  let workspaceName :=
    if chatgptPlanType.any fun plan => eqIgnoreAsciiCase (Text.trim plan) "team" then
      fetchWorkspaceName payload.accessToken chatgptAccountId
    else none
  (payload.expiresAt now).map fun expiresAt =>
    { accessToken := payload.accessToken
      refreshToken := payload.refreshToken.getD presented
      expiresAt := expiresAt.val
      tokenType := payload.tokenType
      scope := payload.scope
      chatgptAccountId
      profile :=
        { email := (idTokenClaims.bind (·.email)).or (accessTokenClaims.bind (·.email))
          oauthSubject :=
            (idTokenClaims.bind (·.oauthSubject)).or (accessTokenClaims.bind (·.oauthSubject))
          oauthIdentityProvider := idTokenClaims.bind (·.oauthIdentityProvider)
          emailVerified :=
            (idTokenClaims.bind (·.emailVerified)).or (accessTokenClaims.bind (·.emailVerified))
          chatgptPlanType
          chatgptUserId :=
            (idTokenClaims.bind (·.chatgptUserId)).or (accessTokenClaims.bind (·.chatgptUserId))
          chatgptSubscriptionActiveStart :=
            idTokenClaims.bind (·.chatgptSubscriptionActiveStart)
          chatgptSubscriptionActiveUntil :=
            idTokenClaims.bind (·.chatgptSubscriptionActiveUntil)
          chatgptSubscriptionLastChecked :=
            idTokenClaims.bind (·.chatgptSubscriptionLastChecked)
          chatgptAccountUserId := accessTokenClaims.bind (·.chatgptAccountUserId)
          chatgptComputeResidency := accessTokenClaims.bind (·.chatgptComputeResidency)
          workspaceName
          organizations := idTokenClaims.bind (·.organizations)
          groups := idTokenClaims.bind (·.groups) } }

end OAuthTokenEndpointResponse

/-! ## Usage answers -/

structure RateLimitWindowSnapshot where
  usedPercent : Option Rat
  limitWindowSeconds : Option I64
  resetAt : Option I64

structure RateLimitStatusDetails where
  primaryWindow : Option RateLimitWindowSnapshot
  secondaryWindow : Option RateLimitWindowSnapshot

structure AdditionalRateLimitDetails where
  limitName : Option String
  meteredFeature : Option String
  rateLimit : Option RateLimitStatusDetails

structure RateLimitStatusPayload where
  planType : Option String
  rateLimit : Option RateLimitStatusDetails
  additionalRateLimits : Option (List AdditionalRateLimitDetails)

/-- `a + b`, which panics where it does not fit, or wraps where the build does not check. -/
def addI64 (overflowChecks : Bool) (a b : I64) : Option Int :=
  if a.val + b.val ≤ 9223372036854775807 ∧ -9223372036854775808 ≤ a.val + b.val then
    some (a.val + b.val)
  else if overflowChecks then none
  else some ((a.val + b.val).bmod 18446744073709551616)

/-- The minutes of a window: the division rounds towards zero. -/
def windowMinutes (overflowChecks : Bool) (seconds : I64) : Option Int :=
  (addI64 overflowChecks seconds 59).map (·.tdiv 60)

def toRateLimitWindow (overflowChecks : Bool) (window : RateLimitWindowSnapshot) :
    Option OAuthRateLimitWindow := do
  let minutes ← match window.limitWindowSeconds.filter (0 < ·) with
    | none => some none
    | some seconds => (windowMinutes overflowChecks seconds).map some
  some
    { usedPercent := window.usedPercent.getD 0
      windowMinutes := minutes
      resetsAt := (window.resetAt.bind UtcDateTime.fromTimestamp).map (·.val) }

/-- An optional window, with a panic outside. -/
def toRateLimitWindow? (overflowChecks : Bool) :
    Option RateLimitWindowSnapshot → Option (Option OAuthRateLimitWindow)
  | none => some none
  | some window => (toRateLimitWindow overflowChecks window).map some

def toRateLimitSnapshot (overflowChecks : Bool) (limitId limitName : Option String) :
    Option RateLimitStatusDetails → Option (Option OAuthRateLimitSnapshot)
  | none => some none
  | some details => do
    let primary ← toRateLimitWindow? overflowChecks details.primaryWindow
    let secondary ← toRateLimitWindow? overflowChecks details.secondaryWindow
    if primary.isNone && secondary.isNone then some none
    else some (some { limitId, limitName, primary, secondary })

def usageSnapshotFromPayload (overflowChecks : Bool) (payload : RateLimitStatusPayload) :
    Option OAuthUsageSnapshot := do
  let first ← toRateLimitSnapshot overflowChecks (some "codex") none payload.rateLimit
  let additional ← (payload.additionalRateLimits.getD []).mapM fun limit =>
    toRateLimitSnapshot overflowChecks limit.meteredFeature limit.limitName limit.rateLimit
  some
    { rateLimits := (first :: additional).filterMap id
      chatgptPlanType := Text.trimmed? payload.planType }

/-! ## Tokens are kept -/

def isBlank (s : String) : Prop := Text.trim s = ""

instance (s : String) : Decidable (isBlank s) := inferInstanceAs (Decidable (_ = _))

namespace OAuthTokenEndpointResponse

variable (payload : OAuthTokenEndpointResponse) (parser : TokenParser) (now : UtcDateTime)

/-- The tokens expire before the end of the calendar. -/
def LifetimeFits : Prop := now.val + payload.lifetime.val * 1000000 ≤ 8210266876799999999

/-- The exchange returns tokens that expire after the call. -/
def ExchangeKept : Prop :=
  ∃ info, payload.exchanged parser now = some info ∧ now.val < info.expiresAt.val

/-- The refresh returns tokens that expire after the call, with a refresh token that is not
blank and is the presented one when the answer has none or a blank one. -/
def RefreshKept (presented : String)
    (fetchWorkspaceName : String → Option String → Option String) : Prop :=
  ∃ tokens, payload.refreshed parser now presented fetchWorkspaceName = some tokens ∧
    now.val < tokens.expiresAt ∧ ¬isBlank tokens.refreshToken ∧
    ((∀ token ∈ payload.refreshToken, isBlank token) → tokens.refreshToken = presented)

theorem lifetime_pos : 0 < payload.lifetime.val := by
  cases h : payload.expiresIn.filter (0 < ·) with
  | none => simp only [lifetime, h, Option.getD_none]; decide
  | some secs =>
      obtain ⟨-, hpos⟩ := Option.filter_eq_some_iff.1 h
      simp only [lifetime, h, Option.getD_some]
      exact of_decide_eq_true hpos

variable {payload now}

theorem expiresAt_of_fits (h : payload.LifetimeFits now) :
    ∃ date, payload.expiresAt now = some date ∧
      date.val = now.val + payload.lifetime.val * 1000000 := by
  have hpos := payload.lifetime_pos
  have hnow := now.lo_le
  simp only [LifetimeFits] at h
  have hduration : durationSeconds payload.lifetime = some (payload.lifetime.val * 1000000) :=
    if_pos ⟨by omega, by omega⟩
  refine ⟨⟨now.val + payload.lifetime.val * 1000000, by omega, h⟩, ?_, rfl⟩
  simp only [expiresAt, hduration, Option.bind_some, UtcDateTime.add]
  exact dif_pos ⟨by omega, h⟩

theorem fits_of_expiresAt {date : UtcDateTime} (h : payload.expiresAt now = some date) :
    payload.LifetimeFits now := by
  obtain ⟨duration, hduration, hadd⟩ := Option.bind_eq_some_iff.1 h
  simp only [durationSeconds, Option.ite_none_right_eq_some, Option.some.injEq] at hduration
  simp only [UtcDateTime.add, Option.dite_none_right_eq_some] at hadd
  obtain ⟨-, rfl⟩ := hduration
  obtain ⟨hbounds, -⟩ := hadd
  exact hbounds.2

theorem exchangeKept_iff : payload.ExchangeKept parser now ↔ payload.LifetimeFits now := by
  constructor
  · rintro ⟨info, hinfo, -⟩
    obtain ⟨date, hdate, -⟩ := Option.map_eq_some_iff.1 hinfo
    exact fits_of_expiresAt hdate
  · intro hfits
    obtain ⟨date, hdate, hval⟩ := expiresAt_of_fits hfits
    have hpos := payload.lifetime_pos
    refine ⟨_, Option.map_eq_some_iff.2 ⟨date, hdate, rfl⟩, ?_⟩
    change now.val < date.val
    omega

theorem refreshed_eq_some {presented : String} {fetch : String → Option String → Option String}
    {tokens : OAuthRefreshedTokens}
    (h : payload.refreshed parser now presented fetch = some tokens) :
    ∃ date, payload.expiresAt now = some date ∧ tokens.expiresAt = date.val ∧
      tokens.refreshToken = payload.refreshToken.getD presented := by
  obtain ⟨date, hdate, rfl⟩ := Option.map_eq_some_iff.1 h
  exact ⟨date, hdate, rfl, rfl⟩

theorem refreshKept_iff {presented : String} {fetch : String → Option String → Option String} :
    payload.RefreshKept parser now presented fetch ↔
      payload.LifetimeFits now ∧ ¬isBlank (payload.refreshToken.getD presented) := by
  constructor
  · rintro ⟨tokens, htokens, -, hblank, -⟩
    obtain ⟨date, hdate, -, htoken⟩ := refreshed_eq_some parser htokens
    exact ⟨fits_of_expiresAt hdate, htoken ▸ hblank⟩
  · rintro ⟨hfits, hblank⟩
    obtain ⟨date, hdate, hval⟩ := expiresAt_of_fits hfits
    have hpos := payload.lifetime_pos
    refine ⟨_, Option.map_eq_some_iff.2 ⟨date, hdate, rfl⟩, ?_, hblank, ?_⟩
    · change now.val < date.val
      omega
    · intro hall
      cases htoken : payload.refreshToken with
      | none => rfl
      | some token =>
          rw [htoken] at hblank
          exact absurd (hall token htoken) hblank

end OAuthTokenEndpointResponse

/-! ## Windows are exact -/

namespace RateLimitWindowSnapshot

/-- The window with its length in minutes, rounded up. -/
def exact (window : RateLimitWindowSnapshot) : OAuthRateLimitWindow where
  usedPercent := window.usedPercent.getD 0
  windowMinutes := (window.limitWindowSeconds.filter (0 < ·)).map fun seconds =>
    ⌈(seconds.val : Rat) / 60⌉
  resetsAt := (window.resetAt.bind UtcDateTime.fromTimestamp).map (·.val)

/-- The length of the window can be rounded up in 64 bits. -/
def Fits (window : RateLimitWindowSnapshot) : Prop :=
  ∀ seconds ∈ window.limitWindowSeconds, seconds.val ≤ 9223372036854775807 - 59

end RateLimitWindowSnapshot

def RateLimitStatusDetails.windows (details : RateLimitStatusDetails) :
    List RateLimitWindowSnapshot :=
  details.primaryWindow.toList ++ details.secondaryWindow.toList

def windowsOf (details : Option RateLimitStatusDetails) : List RateLimitWindowSnapshot :=
  (details.map (·.windows)).getD []

/-- The snapshot of a limit without a bound on its numbers. -/
def exactRateLimitSnapshot (limitId limitName : Option String) :
    Option RateLimitStatusDetails → Option OAuthRateLimitSnapshot
  | none => none
  | some details =>
    if details.primaryWindow.isNone && details.secondaryWindow.isNone then none
    else some
      { limitId, limitName
        primary := details.primaryWindow.map (·.exact)
        secondary := details.secondaryWindow.map (·.exact) }

namespace RateLimitStatusPayload

variable (payload : RateLimitStatusPayload)

def windows : List RateLimitWindowSnapshot :=
  windowsOf payload.rateLimit ++
    (payload.additionalRateLimits.getD []).flatMap fun limit => windowsOf limit.rateLimit

/-- The usage that the payload reports. -/
def exact : OAuthUsageSnapshot where
  rateLimits :=
    (exactRateLimitSnapshot (some "codex") none payload.rateLimit ::
      (payload.additionalRateLimits.getD []).map fun limit =>
        exactRateLimitSnapshot limit.meteredFeature limit.limitName limit.rateLimit).filterMap id
  chatgptPlanType := Text.trimmed? payload.planType

end RateLimitStatusPayload

section

variable {overflowChecks : Bool}

theorem ceil_sixtieth (n : Int) : ⌈(n : Rat) / 60⌉ = (n + 59) / 60 := by
  have h := Rat.ceil_intCast_div_natCast n 60
  push_cast at h
  rw [h]
  omega

variable (overflowChecks) in
theorem windowMinutes_eq_ceil_iff {seconds : I64} (hpos : 0 < seconds.val) :
    windowMinutes overflowChecks seconds = some ⌈(seconds.val : Rat) / 60⌉ ↔
      seconds.val ≤ 9223372036854775807 - 59 := by
  have hmax := seconds.le_hi
  have hval : (59 : I64).val = 59 := by decide
  rw [ceil_sixtieth]
  constructor
  · intro h
    by_contra hlarge
    have hover : ¬(seconds.val + 59 ≤ 9223372036854775807 ∧
        -9223372036854775808 ≤ seconds.val + 59) := by omega
    have hwrap : (seconds.val + 59).bmod 18446744073709551616 =
        seconds.val + 59 - 18446744073709551616 := by
      rw [Int.bmod_def]
      omega
    cases overflowChecks with
    | true => simp [windowMinutes, addI64, hval, hover] at h
    | false =>
        simp only [windowMinutes, addI64, hval, hover, if_false, Bool.false_eq_true,
          Option.map_some, Option.some.injEq, hwrap] at h
        have hneg : 0 ≤ (-(seconds.val + 59 - 18446744073709551616)).tdiv 60 :=
          Int.tdiv_nonneg (by omega) (by omega)
        rw [Int.neg_tdiv] at hneg
        omega
  · intro hfits
    have hsum : seconds.val + 59 ≤ 9223372036854775807 ∧
        -9223372036854775808 ≤ seconds.val + 59 := by omega
    simp only [windowMinutes, addI64, hval, hsum, and_self, if_true, Option.map_some]
    rw [Int.tdiv_eq_ediv_of_nonneg (by omega)]

theorem toRateLimitWindow_eq_exact_iff (window : RateLimitWindowSnapshot) :
    toRateLimitWindow overflowChecks window = some window.exact ↔ window.Fits := by
  obtain ⟨usedPercent, limitWindowSeconds, resetAt⟩ := window
  cases limitWindowSeconds with
  | none => simp [toRateLimitWindow, RateLimitWindowSnapshot.exact, RateLimitWindowSnapshot.Fits]
  | some seconds =>
      have hzero : ((0 : I64) < seconds) ↔ 0 < seconds.val := Iff.rfl
      by_cases hpos : 0 < seconds.val
      · have h := windowMinutes_eq_ceil_iff overflowChecks hpos
        simp only [toRateLimitWindow, RateLimitWindowSnapshot.exact, RateLimitWindowSnapshot.Fits,
          Option.filter_some, hzero, hpos, decide_true, if_true, Option.map_some,
          Option.mem_some_iff, forall_eq', ← h]
        cases windowMinutes overflowChecks seconds <;> simp
      · have hfits : seconds.val ≤ 9223372036854775807 - 59 := by omega
        have hfilter : (some seconds).filter (0 < ·) = none := by
          simp only [Option.filter_some, hzero, hpos, decide_false, Bool.false_eq_true, if_false]
        simp only [toRateLimitWindow, RateLimitWindowSnapshot.exact, RateLimitWindowSnapshot.Fits,
          hfilter, Option.mem_some_iff, forall_eq', hfits, iff_true]
        rfl

variable (overflowChecks) in
theorem toRateLimitWindow?_eq_exact_iff (window : Option RateLimitWindowSnapshot) :
    toRateLimitWindow? overflowChecks window = some (window.map (·.exact)) ↔
      ∀ w ∈ window, w.Fits := by
  cases window with
  | none => simp [toRateLimitWindow?]
  | some w => simp [toRateLimitWindow?, toRateLimitWindow_eq_exact_iff]

theorem isNone_of_toRateLimitWindow? {window : Option RateLimitWindowSnapshot}
    {made : Option OAuthRateLimitWindow}
    (h : toRateLimitWindow? overflowChecks window = some made) :
    made.isNone = window.isNone := by
  cases window with
  | none => cases h; rfl
  | some w =>
      obtain ⟨x, -, rfl⟩ := Option.map_eq_some_iff.1 h
      rfl

variable (overflowChecks) in
theorem toRateLimitSnapshot_eq_exact_iff (limitId limitName : Option String)
    (details : Option RateLimitStatusDetails) :
    toRateLimitSnapshot overflowChecks limitId limitName details =
        some (exactRateLimitSnapshot limitId limitName details) ↔
      ∀ w ∈ windowsOf details, w.Fits := by
  cases details with
  | none => simp [toRateLimitSnapshot, exactRateLimitSnapshot, windowsOf]
  | some details =>
      have hwindows : (∀ w ∈ windowsOf (some details), w.Fits) ↔
          (∀ w ∈ details.primaryWindow, w.Fits) ∧ ∀ w ∈ details.secondaryWindow, w.Fits := by
        simp [windowsOf, RateLimitStatusDetails.windows, or_imp, forall_and]
      rw [hwindows, ← toRateLimitWindow?_eq_exact_iff overflowChecks,
        ← toRateLimitWindow?_eq_exact_iff overflowChecks]
      simp only [toRateLimitSnapshot, exactRateLimitSnapshot]
      cases hp : toRateLimitWindow? overflowChecks details.primaryWindow with
      | none => simp
      | some primary =>
          cases hs : toRateLimitWindow? overflowChecks details.secondaryWindow with
          | none => simp
          | some secondary =>
              have hpn := isNone_of_toRateLimitWindow? hp
              have hsn := isNone_of_toRateLimitWindow? hs
              simp only [Option.bind_eq_bind, Option.bind_some, hpn, hsn]
              split
              · next hnone =>
                  simp only [Bool.and_eq_true, Option.isNone_iff_eq_none] at hnone hpn hsn
                  simp_all
              · simp

theorem toRateLimitSnapshot_isSome {limitId limitName : Option String}
    {details : Option RateLimitStatusDetails} {made : Option OAuthRateLimitSnapshot}
    (h : toRateLimitSnapshot overflowChecks limitId limitName details = some made) :
    made.isSome = (exactRateLimitSnapshot limitId limitName details).isSome := by
  cases details with
  | none => cases h; rfl
  | some details =>
      simp only [toRateLimitSnapshot, Option.bind_eq_bind, Option.bind_eq_some_iff] at h
      obtain ⟨primary, hp, secondary, hs, h⟩ := h
      rw [isNone_of_toRateLimitWindow? hp, isNone_of_toRateLimitWindow? hs] at h
      simp only [exactRateLimitSnapshot]
      split at h <;> cases h <;> simp_all

theorem eq_of_filterMap_id {α : Type*} {xs ys : List (Option α)}
    (hplaces : List.Forall₂ (fun x y => x.isSome = y.isSome) xs ys)
    (h : xs.filterMap id = ys.filterMap id) : xs = ys := by
  induction hplaces with
  | nil => rfl
  | @cons x y xs ys hxy _ ih =>
      cases x with
      | none =>
          cases y with
          | none => rw [ih h]
          | some _ => cases hxy
      | some a =>
          cases y with
          | none => cases hxy
          | some b =>
              simp only [List.filterMap_cons, id_eq, List.cons.injEq] at h
              rw [h.1, ih h.2]

theorem mapM_eq_some_map_iff {α β : Type*} {f : α → Option β} {g : α → β} {xs : List α} :
    xs.mapM f = some (xs.map g) ↔ ∀ x ∈ xs, f x = some (g x) := by
  induction xs with
  | nil => simp
  | cons x xs ih =>
      rw [List.forall_mem_cons, ← ih]
      cases hx : f x <;> cases hxs : xs.mapM f <;> simp [hx, hxs]

theorem forall₂_of_mapM {α β : Type*} {f : α → Option β} {R : β → β → Prop} {g : α → β}
    (hR : ∀ x y, f x = some y → R y (g x)) {xs : List α} {ys : List β}
    (h : xs.mapM f = some ys) : List.Forall₂ R ys (xs.map g) := by
  induction xs generalizing ys with
  | nil => cases h; exact .nil
  | cons x xs ih =>
      simp only [List.mapM_cons, Option.bind_eq_bind, Option.pure_def,
        Option.bind_eq_some_iff] at h
      obtain ⟨y, hy, zs, hzs, h⟩ := h
      cases h
      exact .cons (hR x y hy) (ih hzs)

theorem forall_windows_iff (payload : RateLimitStatusPayload)
    (P : RateLimitWindowSnapshot → Prop) : (∀ window ∈ payload.windows, P window) ↔
      (∀ window ∈ windowsOf payload.rateLimit, P window) ∧
        ∀ limit ∈ payload.additionalRateLimits.getD [],
          ∀ window ∈ windowsOf limit.rateLimit, P window := by
  simp only [RateLimitStatusPayload.windows, List.mem_append, List.mem_flatMap, or_imp, forall_and]
  exact and_congr_right fun _ =>
    ⟨fun h limit hlimit window hwindow => h window ⟨limit, hlimit, hwindow⟩,
      fun h window ⟨limit, hlimit, hwindow⟩ => h limit hlimit window hwindow⟩

theorem usageSnapshotFromPayload_eq_exact_iff (payload : RateLimitStatusPayload) :
    usageSnapshotFromPayload overflowChecks payload = some payload.exact ↔
      ∀ window ∈ payload.windows, window.Fits := by
  have hlimits : (∀ limit ∈ payload.additionalRateLimits.getD [],
        ∀ window ∈ windowsOf limit.rateLimit, window.Fits) ↔
      (payload.additionalRateLimits.getD []).mapM (fun limit => toRateLimitSnapshot
          overflowChecks limit.meteredFeature limit.limitName limit.rateLimit) =
        some ((payload.additionalRateLimits.getD []).map fun limit =>
          exactRateLimitSnapshot limit.meteredFeature limit.limitName limit.rateLimit) := by
    simp only [mapM_eq_some_map_iff, toRateLimitSnapshot_eq_exact_iff]
  rw [forall_windows_iff, hlimits,
    ← toRateLimitSnapshot_eq_exact_iff overflowChecks (some "codex") none]
  constructor
  · intro h
    simp only [usageSnapshotFromPayload, Option.bind_eq_bind, Option.bind_eq_some_iff] at h
    obtain ⟨first, hfirst, additional, hadditional, h⟩ := h
    have hplaces := forall₂_of_mapM
      (R := fun x y : Option OAuthRateLimitSnapshot => x.isSome = y.isSome)
      (fun _ _ hmade => toRateLimitSnapshot_isSome hmade) hadditional
    have hlists := eq_of_filterMap_id (.cons (toRateLimitSnapshot_isSome hfirst) hplaces)
      (congrArg OAuthUsageSnapshot.rateLimits (Option.some.inj h))
    rw [List.cons.injEq] at hlists
    exact ⟨hlists.1 ▸ hfirst, hlists.2 ▸ hadditional⟩
  · rintro ⟨hfirst, hadditional⟩
    simp only [usageSnapshotFromPayload, hfirst, hadditional, Option.bind_eq_bind,
      Option.bind_some]
    rfl

end

/-- Exactly the answers with a lifetime that ends in the calendar, a usable refresh token and
windows that can be rounded up in 64 bits keep their account. -/
theorem answersKept_iff (parser : TokenParser) (payload : OAuthTokenEndpointResponse)
    (now : UtcDateTime) (presented : String)
    (fetchWorkspaceName : String → Option String → Option String) (overflowChecks : Bool)
    (usage : RateLimitStatusPayload) :
    (payload.RefreshKept parser now presented fetchWorkspaceName ↔
      payload.LifetimeFits now ∧ ¬isBlank (payload.refreshToken.getD presented)) ∧
    (payload.ExchangeKept parser now ↔ payload.LifetimeFits now) ∧
    (usageSnapshotFromPayload overflowChecks usage = some usage.exact ↔
      ∀ window ∈ usage.windows, window.Fits) :=
  ⟨payload.refreshKept_iff parser, payload.exchangeKept_iff parser,
    usageSnapshotFromPayload_eq_exact_iff usage⟩

/-- An answer without claims that carries an empty refresh token. -/
def blankAnswer (expiresIn : I64) : OAuthTokenEndpointResponse where
  accessToken := "access"
  refreshToken := some ""
  expiresIn := some expiresIn
  tokenType := none
  scope := none
  chatgptAccountId := none
  idToken := none

/-- A limit with one window of the given length. -/
def windowOf (seconds : I64) : RateLimitStatusPayload where
  planType := none
  rateLimit := some ⟨some ⟨none, some seconds, none⟩, none⟩
  additionalRateLimits := none

/-- The empty refresh token replaces the presented one, the largest lifetime stops the
exchange, and the largest window is not rounded up. -/
theorem largest_answers_not_kept :
    (∀ parser fetchWorkspaceName,
      ¬(blankAnswer 3600).RefreshKept parser ⟨0, by decide, by decide⟩ "presented"
        fetchWorkspaceName) ∧
    (∀ parser, ¬(blankAnswer 9223372036854775807).ExchangeKept parser
      ⟨0, by decide, by decide⟩) ∧
    ∀ overflowChecks, usageSnapshotFromPayload overflowChecks (windowOf 9223372036854775807) ≠
      some (windowOf 9223372036854775807).exact := by
  refine ⟨fun parser fetch h => ?_, fun parser h => ?_, fun overflowChecks h => ?_⟩
  · exact ((OAuthTokenEndpointResponse.refreshKept_iff parser).1 h).2 (by decide)
  · have hfits := (OAuthTokenEndpointResponse.exchangeKept_iff parser).1 h
    exact absurd hfits (by unfold OAuthTokenEndpointResponse.LifetimeFits; decide)
  · have hfits := (usageSnapshotFromPayload_eq_exact_iff _).1 h
      ⟨none, some 9223372036854775807, none⟩ (by simp [RateLimitStatusPayload.windows, windowOf,
        windowsOf, RateLimitStatusDetails.windows])
    exact absurd (hfits _ rfl) (by decide)

end CodexPool
