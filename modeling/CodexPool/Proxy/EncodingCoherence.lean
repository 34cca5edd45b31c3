import CodexPool.Proxy.ContinuationRestore

/-!
# The encoding of a request

What goes upstream carries the headers of the client, and a body that the proxy may have written
again: to restore a continuation, to fit the profile of the account, or to send it once more
without a response that was not found. It writes plain JSON. Only the second of these takes the
encoding of the client's body off the headers.
-/

namespace CodexPool

/-! ## Headers -/

def isCompatibilityPassthroughHeader (name : String) : Bool :=
  name = "openai-beta" || name = "x-openai-subagent" || name = "session_id" ||
    name = "conversation_id" || name = "x-session-id" || Text.startsWith name "x-codex-"

def isHopByHopHeader (name : String) : Bool :=
  name ∈ ["connection", "keep-alive", "proxy-authenticate", "proxy-authorization", "te", "trailer",
    "transfer-encoding", "upgrade"]

def applyPassthroughHeaders (headers : HeaderMap) (stripContentEncoding : Bool) : HeaderMap :=
  headers.filter fun header =>
    isCompatibilityPassthroughHeader header.1 ||
      !(isHopByHopHeader header.1 || header.1 = "host" || header.1 = "content-length" ||
        (stripContentEncoding && header.1 = "content-encoding") || header.1 = "authorization" ||
        header.1 = "chatgpt-account-id")

/-- The session that is named for the upstream when the client has named it otherwise. -/
def sessionIdFallback (headers : HeaderMap) : HeaderMap :=
  if (headers.lookup "session_id").isSome then []
  else
    let name :=
      if (headers.lookup "x-session-id").isSome then "x-session-id" else "conversation_id"
    match headerText headers name with
    | some value => [("session_id", value.toUTF8.toList)]
    | none => []

def upstreamHeaders (account : UpstreamAccount) (headers : HeaderMap)
    (stripContentEncoding : Bool) : HeaderMap :=
  applyPassthroughHeaders headers stripContentEncoding ++ sessionIdFallback headers ++
    ("authorization", ("Bearer " ++ account.bearerToken).toUTF8.toList) ::
      match account.chatgptAccountId with
      | some accountId => [("chatgpt-account-id", accountId.toUTF8.toList)]
      | none => []

def contentEncodings (headers : HeaderMap) : List Bytes :=
  (headers.filter (·.1 = "content-encoding")).map (·.2)

/-! ## Bodies -/

section Request

variable (codec : SerdeJson) (decodeZstdBodyLimited : Bytes → Option Bytes)
  (rt : BackgroundResponsesRuntime) (ownerKey path : String) (headers : HeaderMap) (body : Bytes)
  (clock : Clock) (account : UpstreamAccount) (basePath : String)

/-- The body for another attempt on the account. -/
def rewriteHttpRetryRequestBody (originalRequestBody : Bytes) (errorCode : Option String) :
    Option Bytes :=
  if errorCode ≠ some "previous_response_not_found" then some originalRequestBody
  else do
    let value ← codec.fromSlice originalRequestBody
    if !value.isObject then none
    else if (value.get "previous_response_id").isNone then some originalRequestBody
    else some (codec.toText (value.remove "previous_response_id")).toUTF8.toList

/-- The body after the attempts that have failed with these codes. -/
def retriedBody (requestBody : Bytes) (errorCodes : List (Option String)) : Bytes :=
  errorCodes.foldl
    (fun body errorCode => (rewriteHttpRetryRequestBody codec body errorCode).getD body) requestBody

structure UpstreamRequest where
  headers : HeaderMap
  body : Bytes

/-- What is sent upstream to the account after attempts on it that have failed with these codes,
or the message of the refusal. -/
def upstreamRequest (errorCodes : List (Option String)) : Except String UpstreamRequest :=
  (restoreContinuation codec decodeZstdBodyLimited rt ownerKey path headers body clock).map
    fun restored =>
      let adaptation := maybeAdaptOpenaiResponsesRequestForCodexProfile codec
        decodeZstdBodyLimited account.mode basePath path (headerValues headers "content-encoding")
        restored.1
      { headers := upstreamHeaders account headers (adaptation.any (·.stripContentEncoding))
        body := retriedBody codec ((adaptation.map (·.body)).getD restored.1) errorCodes }

/-! ## What the proxy has written -/

/-- The request with its continuation, when it is read. -/
def restoredValue : Option Json :=
  if path = "/v1/responses" then do
    let value ← requestValue codec decodeZstdBodyLimited headers body
    let prepared ← (prepareResponsesRequest rt ownerKey value
      (parseRequestPolicyContext headers (some value)) clock).toOption
    some prepared.1
  else none

/-- The request in the form of the profile, when the account has the profile and it changes. -/
def adaptedValue (body : Bytes) : Option Json :=
  if !isChatgptCodexProfile account.mode basePath then none
  else if normalizeInputPath path ≠ "/v1/responses" ∧
      normalizeInputPath path ≠ "/v1/responses/compact" then none
  else do
    let value ← parseRequestJsonBody codec decodeZstdBodyLimited
      (headerValues headers "content-encoding") body
    let adapted ← adaptValue (normalizeInputPath path = "/v1/responses/compact") value
    some adapted.1

/-- The request without the response that was not found, when it names one. -/
def retriedValue (body : Bytes) (errorCode : Option String) : Option Json :=
  if errorCode ≠ some "previous_response_not_found" then none
  else do
    let value ← codec.fromSlice body
    if (value.get "previous_response_id").isSome then
      some (value.remove "previous_response_id")
    else none

structure WrittenBody where
  bytes : Bytes
  value : Option Json

def WrittenBody.write (written : WrittenBody) : Option Json → WrittenBody
  | some value => ⟨(codec.toText value).toUTF8.toList, some value⟩
  | none => written

def restoredBody : WrittenBody :=
  WrittenBody.write codec ⟨body, none⟩
    (restoredValue codec decodeZstdBodyLimited rt ownerKey path headers body clock)

/-- The body of the request, with the value that the proxy means to send in it. -/
def upstreamBody (errorCodes : List (Option String)) : WrittenBody :=
  let restored := restoredBody codec decodeZstdBodyLimited rt ownerKey path headers body clock
  let adapted := restored.write codec
    (adaptedValue codec decodeZstdBodyLimited path headers account basePath restored.bytes)
  errorCodes.foldl
    (fun written errorCode => written.write codec (retriedValue codec written.bytes errorCode))
    adapted

/-- An upstream that takes a body without an encoding as it is gets the JSON that the proxy has
written, or else what the client has sent. -/
def EncodingCoherent (errorCodes : List (Option String)) : Prop :=
  ∀ request, upstreamRequest codec decodeZstdBodyLimited rt ownerKey path headers body clock
      account basePath errorCodes = .ok request →
    ∀ decodeContent : List Bytes → Bytes → Option Bytes,
      (∀ bytes, decodeContent [] bytes = some bytes) →
      decodeContent (contentEncodings request.headers) request.body =
        match (upstreamBody codec decodeZstdBodyLimited rt ownerKey path headers body clock account
          basePath errorCodes).value with
        | some value => some (codec.toText value).toUTF8.toList
        | none => decodeContent (contentEncodings headers) body

/-- The request is read to restore its continuation. -/
def IsRestored : Prop :=
  path = "/v1/responses" ∧ (requestValue codec decodeZstdBodyLimited headers body).isSome

/-- The request goes to an account with the profile and does not have its form. -/
def IsAdapted : Prop :=
  (adaptedValue codec decodeZstdBodyLimited path headers account basePath
    (restoredBody codec decodeZstdBodyLimited rt ownerKey path headers body clock).bytes).isSome

/-- The client's body is plain JSON, and names a response that was not found. -/
def IsRetriedWithout (errorCodes : List (Option String)) : Prop :=
  some "previous_response_not_found" ∈ errorCodes ∧
    ∃ value, codec.fromSlice body = some value ∧ (value.get "previous_response_id").isSome

end Request

/-! ## The headers that are sent -/

theorem contentEncodings_append (headers headers' : HeaderMap) :
    contentEncodings (headers ++ headers') =
      contentEncodings headers ++ contentEncodings headers' := by
  rw [contentEncodings, List.filter_append, List.map_append, ← contentEncodings,
    ← contentEncodings]

theorem contentEncodings_of_ne {headers : HeaderMap}
    (h : ∀ header ∈ headers, header.1 ≠ "content-encoding") : contentEncodings headers = [] := by
  rw [contentEncodings, List.filter_eq_nil_iff.2, List.map_nil]
  intro header hheader
  simpa using h header hheader

theorem contentEncodings_applyPassthroughHeaders (headers : HeaderMap) (strip : Bool) :
    contentEncodings (applyPassthroughHeaders headers strip) =
      if strip then [] else contentEncodings headers := by
  have hcompatible : isCompatibilityPassthroughHeader "content-encoding" = false := by
    decide
  have hhop : isHopByHopHeader "content-encoding" = false := by decide
  rw [contentEncodings, applyPassthroughHeaders, List.filter_filter]
  cases strip with
  | true =>
      rw [if_pos rfl, List.filter_eq_nil_iff.2, List.map_nil]
      rintro ⟨name, value⟩ - h
      simp only [Bool.and_eq_true, decide_eq_true_eq] at h
      rcases h with ⟨rfl, hkept⟩
      simp [hcompatible] at hkept
  | false =>
      rw [if_neg Bool.false_ne_true, contentEncodings]
      congr 1
      apply List.filter_congr
      rintro ⟨name, value⟩ -
      dsimp only
      by_cases hname : name = "content-encoding"
      · subst hname
        simp [hhop]
      · simp [hname]

theorem contentEncodings_upstreamHeaders (account : UpstreamAccount) (headers : HeaderMap)
    (strip : Bool) : contentEncodings (upstreamHeaders account headers strip) =
      if strip then [] else contentEncodings headers := by
  have hfallback : contentEncodings (sessionIdFallback headers) = [] := by
    apply contentEncodings_of_ne
    unfold sessionIdFallback
    split_ifs
    · exact List.forall_mem_nil _
    all_goals
      dsimp only
      split
      · exact List.forall_mem_singleton.2 (show "session_id" ≠ "content-encoding" by decide)
      · exact List.forall_mem_nil _
  have hown : contentEncodings
      (("authorization", ("Bearer " ++ account.bearerToken).toUTF8.toList) ::
        match account.chatgptAccountId with
        | some accountId => [("chatgpt-account-id", accountId.toUTF8.toList)]
        | none => []) = [] := by
    apply contentEncodings_of_ne
    rw [List.forall_mem_cons]
    refine ⟨show "authorization" ≠ "content-encoding" by decide, ?_⟩
    split
    · exact List.forall_mem_singleton.2
        (show "chatgpt-account-id" ≠ "content-encoding" by decide)
    · exact List.forall_mem_nil _
  rw [upstreamHeaders, contentEncodings_append, contentEncodings_append, hfallback, hown,
    List.append_nil, List.append_nil, contentEncodings_applyPassthroughHeaders]

theorem headerValues_isEmpty (headers : HeaderMap) :
    (headerValues headers "content-encoding").isEmpty = (contentEncodings headers).isEmpty := by
  simp [headerValues, contentEncodings]

section Bodies

variable {codec : SerdeJson} {decodeZstdBodyLimited : Bytes → Option Bytes}
  {rt : BackgroundResponsesRuntime} {ownerKey path : String} {headers : HeaderMap} {body : Bytes}
  {clock : Clock} {account : UpstreamAccount} {basePath : String}
  {errorCodes : List (Option String)} {written : WrittenBody}

/-! ## The bodies that are sent -/

theorem adaptation_body (bytes : Bytes) :
    (maybeAdaptOpenaiResponsesRequestForCodexProfile codec decodeZstdBodyLimited account.mode
        basePath path (headerValues headers "content-encoding") bytes).map (·.body) =
      (adaptedValue codec decodeZstdBodyLimited path headers account basePath bytes).map
        fun value => (codec.toText value).toUTF8.toList := by
  unfold maybeAdaptOpenaiResponsesRequestForCodexProfile adaptedValue
  dsimp only
  split_ifs
  · rfl
  · rfl
  · cases parseRequestJsonBody codec decodeZstdBodyLimited
      (headerValues headers "content-encoding") bytes with
    | none => rfl
    | some value =>
        simp only [Option.bind_eq_bind, Option.bind_some]
        cases adaptValue (decide (normalizeInputPath path = "/v1/responses/compact")) value with
        | none => rfl
        | some adapted => rfl

theorem adaptation_strip (bytes : Bytes) :
    (maybeAdaptOpenaiResponsesRequestForCodexProfile codec decodeZstdBodyLimited account.mode
        basePath path (headerValues headers "content-encoding") bytes).any
        (·.stripContentEncoding) =
      ((adaptedValue codec decodeZstdBodyLimited path headers account basePath bytes).isSome &&
        !(contentEncodings headers).isEmpty) := by
  rw [← headerValues_isEmpty]
  unfold maybeAdaptOpenaiResponsesRequestForCodexProfile adaptedValue
  dsimp only
  split_ifs
  · rfl
  · rfl
  · cases parseRequestJsonBody codec decodeZstdBodyLimited
      (headerValues headers "content-encoding") bytes with
    | none => rfl
    | some value =>
        simp only [Option.bind_eq_bind, Option.bind_some]
        cases adaptValue (decide (normalizeInputPath path = "/v1/responses/compact")) value with
        | none => rfl
        | some adapted => simp

theorem getD_rewriteHttpRetryRequestBody (errorCode : Option String) :
    (rewriteHttpRetryRequestBody codec written.bytes errorCode).getD written.bytes =
      (written.write codec (retriedValue codec written.bytes errorCode)).bytes := by
  unfold rewriteHttpRetryRequestBody retriedValue
  split_ifs
  · rfl
  · cases codec.fromSlice written.bytes with
    | none => rfl
    | some value =>
        simp only [Option.bind_eq_bind, Option.bind_some]
        cases hget : value.get "previous_response_id" with
        | none =>
            cases value.isObject with
            | false => rfl
            | true => rfl
        | some id =>
            rw [isObject_of_get hget]
            rfl

theorem retriedBody_eq (errorCodes : List (Option String)) (written : WrittenBody) :
    retriedBody codec written.bytes errorCodes =
      (errorCodes.foldl (fun written errorCode =>
        written.write codec (retriedValue codec written.bytes errorCode)) written).bytes := by
  induction errorCodes generalizing written with
  | nil => rfl
  | cons errorCode errorCodes ih =>
      rw [retriedBody, List.foldl_cons, getD_rewriteHttpRetryRequestBody, ← retriedBody, ih,
        List.foldl_cons]

theorem restoredBody_bytes {restored : Bytes × ParsedRequestPolicyContext}
    (h : restoreContinuation codec decodeZstdBodyLimited rt ownerKey path headers body clock =
      .ok restored) :
    (restoredBody codec decodeZstdBodyLimited rt ownerKey path headers body clock).bytes =
        restored.1 ∧
      ((restoredValue codec decodeZstdBodyLimited rt ownerKey path headers body clock).isSome ↔
        IsRestored codec decodeZstdBodyLimited path headers body) := by
  unfold restoreContinuation at h
  unfold restoredBody restoredValue IsRestored
  dsimp only at h
  by_cases hpath : path = "/v1/responses"
  · rw [if_pos hpath] at h ⊢
    cases hvalue : requestValue codec decodeZstdBodyLimited headers body with
    | none =>
        rw [hvalue] at h
        cases h
        simp [WrittenBody.write]
    | some value =>
        rw [hvalue] at h
        dsimp only at h
        cases hprepared : prepareResponsesRequest rt ownerKey value
          (parseRequestPolicyContext headers (some value)) clock with
        | error message =>
            rw [hprepared] at h
            cases h
        | ok prepared =>
            rw [hprepared] at h
            cases h
            simp [hprepared, Except.toOption, WrittenBody.write, hpath]
  · rw [if_neg hpath] at h ⊢
    cases h
    simp [WrittenBody.write, hpath]

/-- A body that was not written again is the one of the client. -/
def WrittenBody.Fits (codec : SerdeJson) (body : Bytes) (written : WrittenBody) : Prop :=
  written.bytes = (written.value.map fun value => (codec.toText value).toUTF8.toList).getD body

theorem WrittenBody.Fits.write (h : written.Fits codec body) (value : Option Json) :
    (written.write codec value).Fits codec body := by
  cases value with
  | none => exact h
  | some value => rfl

theorem adapted_fits (value : Option Json) :
    ((restoredBody codec decodeZstdBodyLimited rt ownerKey path headers body clock).write codec
      value).Fits codec body := by
  have hclient : WrittenBody.Fits codec body ⟨body, none⟩ := rfl
  exact (hclient.write _).write value

theorem isSome_write {value : Option Json} :
    (written.write codec value).value.isSome ↔ value.isSome ∨ written.value.isSome := by
  cases value with
  | none => simp [WrittenBody.write]
  | some value => simp [WrittenBody.write]

theorem isSome_retriedValue (bytes : Bytes) (errorCode : Option String) :
    (retriedValue codec bytes errorCode).isSome ↔ errorCode = some "previous_response_not_found" ∧
      ∃ value, codec.fromSlice bytes = some value ∧ (value.get "previous_response_id").isSome := by
  unfold retriedValue
  by_cases hcode : errorCode = some "previous_response_not_found"
  · rw [if_neg (not_not.2 hcode)]
    cases codec.fromSlice bytes with
    | none => simp
    | some value => by_cases hget : (value.get "previous_response_id").isSome <;> simp [hget, hcode]
  · rw [if_pos hcode]
    simp [hcode]

/-- After the attempts, a body is written again if it was before, or if one of them did not find
the response that it names. -/
theorem retried_fits (h : written.Fits codec body) (errorCodes : List (Option String)) :
    (errorCodes.foldl (fun written errorCode =>
        written.write codec (retriedValue codec written.bytes errorCode)) written).Fits codec body ∧
      ((errorCodes.foldl (fun written errorCode =>
          written.write codec (retriedValue codec written.bytes errorCode)) written).value.isSome ↔
        written.value.isSome ∨ IsRetriedWithout codec written.bytes errorCodes) := by
  induction errorCodes generalizing written with
  | nil => exact ⟨h, by simp [IsRetriedWithout]⟩
  | cons errorCode errorCodes ih =>
      rcases ih (h.write (retriedValue codec written.bytes errorCode)) with ⟨hfits, hvalue⟩
      refine ⟨hfits, hvalue.trans ?_⟩
      rw [isSome_write]
      cases hretried : retriedValue codec written.bytes errorCode with
      | some value =>
          have hboth := (isSome_retriedValue written.bytes errorCode).1
            (by rw [hretried]; rfl)
          refine ⟨fun _ => Or.inr ⟨?_, hboth.2⟩, fun _ => Or.inl (Or.inl rfl)⟩
          rw [hboth.1]
          exact List.mem_cons_self
      | none =>
          have hnot : ¬(errorCode = some "previous_response_not_found" ∧ ∃ value,
              codec.fromSlice written.bytes = some value ∧
                (value.get "previous_response_id").isSome) := by
            rw [← isSome_retriedValue, hretried]
            exact Bool.false_ne_true
          change ((none : Option Json).isSome = true ∨ _) ∨
            IsRetriedWithout codec written.bytes _ ↔ _
          unfold IsRetriedWithout
          rw [List.mem_cons]
          constructor
          · rintro ((hnone | hsome) | ⟨hmem, hnames⟩)
            · cases hnone
            · exact Or.inl hsome
            · exact Or.inr ⟨Or.inr hmem, hnames⟩
          · rintro (hsome | ⟨hcode | hmem, hnames⟩)
            · exact Or.inl (Or.inr hsome)
            · exact absurd ⟨hcode.symm, hnames⟩ hnot
            · exact Or.inr ⟨hmem, hnames⟩

/-! ## What the upstream reads -/

/-- What is sent, by what was written of it. -/
theorem upstreamRequest_sends {request : UpstreamRequest}
    (h : upstreamRequest codec decodeZstdBodyLimited rt ownerKey path headers body clock account
      basePath errorCodes = .ok request) :
    request.body = (upstreamBody codec decodeZstdBodyLimited rt ownerKey path headers body clock
        account basePath errorCodes).bytes ∧
      (contentEncodings request.headers = [] ↔ contentEncodings headers = [] ∨
        IsAdapted codec decodeZstdBodyLimited rt ownerKey path headers body clock account
          basePath) ∧
      (contentEncodings request.headers = [] ∨
        contentEncodings request.headers = contentEncodings headers) := by
  rw [upstreamRequest] at h
  cases hrestored : restoreContinuation codec decodeZstdBodyLimited rt ownerKey path headers body
    clock with
  | error message =>
      rw [hrestored] at h
      cases h
  | ok restored =>
      rw [hrestored] at h
      cases h
      have hbytes := (restoredBody_bytes hrestored).1
      refine ⟨?_, ?_, ?_⟩
      · change retriedBody codec (((maybeAdaptOpenaiResponsesRequestForCodexProfile codec
          decodeZstdBodyLimited account.mode basePath path (headerValues headers "content-encoding")
          restored.1).map (·.body)).getD restored.1) errorCodes = _
        rw [adaptation_body, upstreamBody, ← retriedBody_eq]
        rw [hbytes]
        cases adaptedValue codec decodeZstdBodyLimited path headers account basePath
          restored.1 with
        | none => exact congrArg (retriedBody codec · errorCodes) hbytes.symm
        | some value => rfl
      · rw [contentEncodings_upstreamHeaders, adaptation_strip, IsAdapted, hbytes]
        cases (adaptedValue codec decodeZstdBodyLimited path headers account basePath
          restored.1).isSome with
        | false => simp
        | true => by_cases hnone : contentEncodings headers = [] <;> simp [hnone]
      · rw [contentEncodings_upstreamHeaders]
        split_ifs
        · exact Or.inl rfl
        · exact Or.inr rfl

theorem isSome_upstreamBody :
    (upstreamBody codec decodeZstdBodyLimited rt ownerKey path headers body clock account basePath
        errorCodes).value.isSome ↔
      (IsAdapted codec decodeZstdBodyLimited rt ownerKey path headers body clock account basePath ∨
        (restoredValue codec decodeZstdBodyLimited rt ownerKey path headers body clock).isSome) ∨
      IsRetriedWithout codec
        ((restoredBody codec decodeZstdBodyLimited rt ownerKey path headers body clock).write codec
          (adaptedValue codec decodeZstdBodyLimited path headers account basePath
            (restoredBody codec decodeZstdBodyLimited rt ownerKey path headers body
              clock).bytes)).bytes errorCodes := by
  have hrestored : (restoredBody codec decodeZstdBodyLimited rt ownerKey path headers body
      clock).value.isSome ↔
        (restoredValue codec decodeZstdBodyLimited rt ownerKey path headers body clock).isSome := by
    rw [restoredBody, isSome_write]
    simp
  rw [upstreamBody, (retried_fits (adapted_fits _) errorCodes).2, isSome_write, hrestored,
    IsAdapted]

theorem encodingCoherent_iff_value {request : UpstreamRequest}
    (h : upstreamRequest codec decodeZstdBodyLimited rt ownerKey path headers body clock account
      basePath errorCodes = .ok request) :
    EncodingCoherent codec decodeZstdBodyLimited rt ownerKey path headers body clock account
        basePath errorCodes ↔
      (contentEncodings headers = [] ∨
        IsAdapted codec decodeZstdBodyLimited rt ownerKey path headers body clock account
          basePath) ∨
      (upstreamBody codec decodeZstdBodyLimited rt ownerKey path headers body clock account
        basePath errorCodes).value = none := by
  have hfits : (upstreamBody codec decodeZstdBodyLimited rt ownerKey path headers body clock account
      basePath errorCodes).Fits codec body :=
    (retried_fits (adapted_fits _) errorCodes).1
  rcases upstreamRequest_sends h with ⟨hbody, hnone, hsame⟩
  rw [← hnone]
  constructor
  · intro hcoherent
    by_contra hnot
    rcases not_or.1 hnot with ⟨hencoded, hwritten⟩
    rcases Option.ne_none_iff_exists'.1 hwritten with ⟨value, hvalue⟩
    -- an upstream that refuses every encoding
    have hread := hcoherent request h (fun encodings bytes =>
      if encodings = [] then some bytes else none) fun _ => if_pos rfl
    rw [hvalue] at hread
    dsimp only at hread
    rw [if_neg hencoded] at hread
    cases hread
  · intro hor request' h' decodeContent hplain
    cases h.symm.trans h'
    rw [WrittenBody.Fits, ← hbody] at hfits
    cases hvalue : (upstreamBody codec decodeZstdBodyLimited rt ownerKey path headers body clock
        account basePath errorCodes).value with
    | some value =>
        rw [hvalue] at hfits hor
        have hempty := hor.resolve_right (Option.some_ne_none value)
        rw [hempty, hplain, hfits]
        rfl
    | none =>
        rw [hvalue] at hfits
        rw [hfits]
        have hencodings : contentEncodings request.headers = contentEncodings headers := by
          rcases hsame with hempty | hsame
          · rcases hnone.1 hempty with hheaders | hadapted
            · rw [hempty, hheaders]
            · have hsome : (upstreamBody codec decodeZstdBodyLimited rt ownerKey path headers body
                  clock account basePath errorCodes).value.isSome :=
                isSome_upstreamBody.2 (Or.inl (Or.inl hadapted))
              rw [hvalue] at hsome
              cases hsome
          · exact hsame
        rw [hencodings]
        rfl

end Bodies

/-- What goes upstream decodes to what is meant exactly when the request is refused, when it has no
encoding, when it was adapted, or when it was written again neither to restore a continuation nor
after an attempt. -/
theorem encodingCoherent_iff (codec : SerdeJson) (decodeZstdBodyLimited : Bytes → Option Bytes)
    (rt : BackgroundResponsesRuntime) (ownerKey path : String) (headers : HeaderMap) (body : Bytes)
    (clock : Clock) (account : UpstreamAccount) (basePath : String)
    (errorCodes : List (Option String)) :
    EncodingCoherent codec decodeZstdBodyLimited rt ownerKey path headers body clock account
        basePath errorCodes ↔
      (∃ message, restoreContinuation codec decodeZstdBodyLimited rt ownerKey path headers body
        clock = .error message) ∨
      contentEncodings headers = [] ∨
      IsAdapted codec decodeZstdBodyLimited rt ownerKey path headers body clock account basePath ∨
      ¬IsRestored codec decodeZstdBodyLimited path headers body ∧
        ¬IsRetriedWithout codec body errorCodes := by
  cases hrestored : restoreContinuation codec decodeZstdBodyLimited rt ownerKey path headers body
    clock with
  | error message =>
      refine iff_of_true ?_ (Or.inl ⟨message, rfl⟩)
      intro request hrequest
      rw [upstreamRequest, hrestored] at hrequest
      cases hrequest
  | ok restored =>
      have hrequest : ∃ request, upstreamRequest codec decodeZstdBodyLimited rt ownerKey path
          headers body clock account basePath errorCodes = .ok request := by
        rw [upstreamRequest, hrestored]
        exact ⟨_, rfl⟩
      rcases hrequest with ⟨request, hrequest⟩
      rw [encodingCoherent_iff_value hrequest, or_assoc]
      have hrefused : ¬∃ message : String, Except.ok restored = Except.error message := by
        rintro ⟨message, hmessage⟩
        cases hmessage
      rw [or_iff_right hrefused]
      refine or_congr_right (or_congr_right' fun hnotAdapted => ?_)
      have hvalue := (restoredBody_bytes hrestored).2
      rw [← Option.not_isSome_iff_eq_none, isSome_upstreamBody, not_or, not_or, ← hvalue]
      have hbytes (hnot : ¬(restoredValue codec decodeZstdBodyLimited rt ownerKey path headers body
          clock).isSome) :
          ((restoredBody codec decodeZstdBodyLimited rt ownerKey path headers body clock).write
            codec (adaptedValue codec decodeZstdBodyLimited path headers account basePath
              (restoredBody codec decodeZstdBodyLimited rt ownerKey path headers body
                clock).bytes)).bytes = body := by
        rw [Option.not_isSome_iff_eq_none.1 hnotAdapted]
        change
          (restoredBody codec decodeZstdBodyLimited rt ownerKey path headers body clock).bytes =
          body
        rw [restoredBody, Option.not_isSome_iff_eq_none.1 hnot]
        rfl
      constructor
      · rintro ⟨⟨-, hnotRestored⟩, hnotRetried⟩
        rw [hbytes hnotRestored] at hnotRetried
        exact ⟨hnotRestored, hnotRetried⟩
      · rintro ⟨hnotRestored, hnotRetried⟩
        rw [← hbytes hnotRestored] at hnotRetried
        exact ⟨⟨hnotAdapted, hnotRestored⟩, hnotRetried⟩

/-! A compressed request for an account with an API key. -/

def modelText : String := "\x7b\"model\":\"m\"\x7d"

def modelCodec : SerdeJson := .ofTable [(modelText, .obj [("model", .str "m")])]

/-- A frame with the text in one raw block. -/
def modelFrame : Bytes :=
  [0x28, 0xB5, 0x2F, 0xFD, 0x20, 0x0D, 0x69, 0x00, 0x00] ++ Bytes.ofAscii modelText

def decodeModelFrame (body : Bytes) : Option Bytes :=
  if body = modelFrame then some (Bytes.ofAscii modelText) else none

def zstdHeaders : HeaderMap := [("content-encoding", Bytes.ofAscii "zstd")]

def apiKeyAccount : UpstreamAccount where
  id := ⟨"account"⟩
  label := "account"
  mode := .openAiApiKey
  baseUrl := "https://api.openai.com/v1"
  bearerToken := "key"
  chatgptAccountId := none
  enabled := true
  priority := 100
  createdAt := 0

theorem splitOn_zstd : "zstd".splitOn "," = ["zstd"] := by
  unfold String.splitOn
  rw [if_neg (by decide)]
  iterate 5 rw [String.splitOnAux]
  decide

theorem requestValue_modelFrame :
    requestValue modelCodec decodeModelFrame zstdHeaders modelFrame =
      some (.obj [("model", .str "m")]) := by
  have hvalues : headerValues zstdHeaders "content-encoding" = [some "zstd"] := by decide
  have hzstd : hasZstdContentEncoding [some "zstd"] = true := by
    rw [hasZstdContentEncoding, List.any_cons]
    dsimp only
    rw [splitOn_zstd]
    decide
  have hdecoded : (decodeModelFrame modelFrame).bind modelCodec.fromSlice =
      some (.obj [("model", .str "m")]) := by rfl
  rw [requestValue, parseRequestJsonBody, hvalues, hzstd, if_neg (by decide), if_pos rfl,
    hdecoded]
  rfl

/-- The text is sent under the encoding of the frame. -/
theorem modelFrame_not_coherent :
    ¬EncodingCoherent modelCodec decodeModelFrame (BackgroundResponsesRuntime.new 86400) "tenant"
      "/v1/responses" zstdHeaders modelFrame ⟨0, 0⟩ apiKeyAccount "/v1" [] := by
  have hread : (requestValue modelCodec decodeModelFrame zstdHeaders modelFrame).isSome = true := by
    rw [requestValue_modelFrame]
    rfl
  cases hrestored : restoreContinuation modelCodec decodeModelFrame
    (BackgroundResponsesRuntime.new 86400) "tenant" "/v1/responses" zstdHeaders modelFrame
    ⟨0, 0⟩ with
  | error message =>
      have hok : (restoreContinuation modelCodec decodeModelFrame
          (BackgroundResponsesRuntime.new 86400) "tenant" "/v1/responses" zstdHeaders modelFrame
          ⟨0, 0⟩).toOption.isSome = true := by
        rw [restoreContinuation, requestValue_modelFrame]
        decide
      rw [hrestored] at hok
      cases hok
  | ok restored =>
      have hrequest : ∃ request, upstreamRequest modelCodec decodeModelFrame
          (BackgroundResponsesRuntime.new 86400) "tenant" "/v1/responses" zstdHeaders modelFrame
          ⟨0, 0⟩ apiKeyAccount "/v1" [] = .ok request := by
        rw [upstreamRequest, hrestored]
        exact ⟨_, rfl⟩
      rcases hrequest with ⟨request, hrequest⟩
      rw [encodingCoherent_iff_value hrequest]
      rintro ((hnone | hadapted) | hvalue)
      · exact absurd hnone (by decide)
      · cases hadapted
      · have hwritten := (restoredBody_bytes hrestored).2.2 ⟨rfl, hread⟩
        have hsome := (@isSome_upstreamBody _ _ _ _ _ _ _ _ apiKeyAccount "/v1" []).2
          (Or.inl (Or.inr hwritten))
        rw [hvalue] at hsome
        cases hsome

end CodexPool
