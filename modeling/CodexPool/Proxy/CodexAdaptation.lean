import CodexPool.Core.Model
import CodexPool.Lib.JsonNumbers
import CodexPool.Lib.Text
import CodexPool.Lib.Utf8
import CodexPool.Proxy.Usage

/-!
# Requests for the Codex profile

A request for responses that goes to an account of the Codex profile is adapted before it is sent:
the instructions become a text, the input a list, and the parameters that the profile does not
know are taken out. An adapted request is in a normal form, and is not adapted again.
-/

namespace CodexPool

/-! ## Fields -/

/-- A service tier in its normal spelling, and whether it was changed. -/
def adaptCodexServiceTierField (value : Json) : Json × Bool :=
  match value.getStr "service_tier" with
  | none => (value, false)
  | some serviceTier =>
    match normalizeServiceTierValue serviceTier with
    | none => (value, false)
    | some normalized =>
      if serviceTier = normalized then (value, false)
      else (value.insert "service_tier" (.str normalized), true)

def adaptCodexServiceTierFieldsInValue (value : Json) : Json × Bool :=
  let (value, changed) := adaptCodexServiceTierField value
  match value.get "response" with
  | none => (value, changed)
  | some response =>
    let (response, changedResponse) := adaptCodexServiceTierField response
    (if changedResponse then value.insert "response" response else value,
      changed || changedResponse)

def adaptCodexInputValue : Json → Json
  | .str text =>
    .arr [.ofFields [("role", .str "user"), ("content",
      .arr [.ofFields [("type", .str "input_text"), ("text", .str text)]])]]
  | .arr items => .arr items
  | .null => .arr []
  | other => .arr [other]

def adaptInstructions (value : Json) : Json × Bool :=
  match value.get "instructions" with
  | some (.str _) => (value, false)
  | _ => (value.insert "instructions" (.str ""), true)

/-- The adapted input is another value unless the input is a list. -/
def adaptInput (value : Json) : Json × Bool :=
  match value.get "input" with
  | none => (value, false)
  | some input =>
    if input.asArray.isSome then (value, false)
    else (value.insert "input" (adaptCodexInputValue input), true)

/-- The value without a field, and whether it had it. -/
def takeField (value : Json) (k : String) : Json × Bool := (value.remove k, (value.get k).isSome)

def hasPreviousResponseId (value : Json) : Bool :=
  (Text.trimmed? (value.getStr "previous_response_id")).isSome

/-- The fields about the stream and the store of a request that is not compact. -/
def adaptStream (removedMaxOutputTokens originalStream : Bool) (value : Json) : Json × Bool :=
  let shouldForceStoreFalse := removedMaxOutputTokens && !hasPreviousResponseId value &&
    (value.get "store").isNone
  let value := if shouldForceStoreFalse then value.insert "store" (.bool false) else value
  (if originalStream then value else value.insert "stream" (.bool true),
    shouldForceStoreFalse || !originalStream)

def adaptCompact (value : Json) : Json × Bool :=
  let (value, removedStore) := takeField value "store"
  let (value, removedStream) := takeField value "stream"
  (value, removedStore || removedStream)

/-- Whether the client has asked for a stream. -/
def originalStream (value : Json) : Bool := ((value.get "stream").bind Json.asBool).getD false

/-- The fields of a request in turn, and whether one of them was changed. -/
def adaptFields (isCompact originalStream : Bool) (value : Json) : Json × Bool :=
  let (value, instructionsChanged) := adaptInstructions value
  let (value, inputChanged) := adaptInput value
  let (value, removedMaxOutputTokens) := takeField value "max_output_tokens"
  let (value, removedConversation) := takeField value "conversation"
  let (value, modeChanged) :=
    if isCompact then adaptCompact value
    else adaptStream removedMaxOutputTokens originalStream value
  (value, instructionsChanged || inputChanged || removedMaxOutputTokens ||
    removedConversation || modeChanged)

/-- The adapted request, and whether its stream is made for a client that has not asked for one;
`none` when there is nothing to adapt. -/
def adaptValue (isCompact : Bool) (value : Json) : Option (Json × Bool) :=
  let (value, tierChanged) := adaptCodexServiceTierFieldsInValue value
  if !value.isObject then none
  else
    let stream := originalStream value
    let (value, fieldsChanged) := adaptFields isCompact stream value
    if tierChanged || fieldsChanged then some (value, !isCompact && !stream) else none

/-! ## Requests -/

structure UpstreamRequestCompatibilityAdaptation where
  body : Bytes
  stripContentEncoding : Bool
  bridgeStreamResponse : Bool
deriving DecidableEq

/-- The values of the header with the encodings of the body; `none` for one that is no text. -/
abbrev ContentEncodings := List (Option String)

def hasZstdContentEncoding (headers : ContentEncodings) : Bool :=
  headers.any fun value =>
    match value with
    | none => false
    | some raw =>
      (raw.splitOn ",").any fun entry => Text.toAsciiLowercase (Text.trim entry) = "zstd"

def isChatgptCodexProfile (mode : UpstreamMode) (basePath : String) : Bool :=
  match mode with
  | .chatGptSession | .codexOauth =>
    "/backend-api/codex".toList.isSuffixOf (basePath.toList.rdropWhile (· = '/'))
  | .openAiApiKey => false

def normalizeInputPath (path : String) : String :=
  if Text.startsWith path "/" then path else "/" ++ path

section Request

variable (codec : SerdeJson) (decodeZstdBodyLimited : Bytes → Option Bytes)

def parseRequestJsonBody (headers : ContentEncodings) (body : Bytes) : Option Json :=
  if body.isEmpty then none
  else
    let decoded :=
      if hasZstdContentEncoding headers then (decodeZstdBodyLimited body).bind codec.fromSlice
      else none
    decoded.or (codec.fromSlice body)

def maybeAdaptOpenaiResponsesRequestForCodexProfile (mode : UpstreamMode)
    (basePath path : String) (headers : ContentEncodings) (body : Bytes) :
    Option UpstreamRequestCompatibilityAdaptation :=
  if !isChatgptCodexProfile mode basePath then none
  else
    let normalizedPath := normalizeInputPath path
    if normalizedPath ≠ "/v1/responses" ∧ normalizedPath ≠ "/v1/responses/compact" then none
    else do
      let value ← parseRequestJsonBody codec decodeZstdBodyLimited headers body
      let (adapted, bridge) ← adaptValue (normalizedPath = "/v1/responses/compact") value
      pure
        { body := (codec.toText adapted).toUTF8.toList
          stripContentEncoding := !headers.isEmpty
          bridgeStreamResponse := bridge }

end Request

/-! ## Service tiers -/

/-- A service tier that is not changed any more. -/
def TierNormal (value : Json) : Prop :=
  ∀ serviceTier, value.getStr "service_tier" = some serviceTier →
    normalizeServiceTierValue serviceTier = none ∨
      normalizeServiceTierValue serviceTier = some serviceTier

theorem normalizeServiceTierValue_normal {raw normalized : String}
    (h : normalizeServiceTierValue raw = some normalized) :
    normalizeServiceTierValue normalized = some normalized := by
  rw [normalizeServiceTierValue] at h
  dsimp only at h
  split at h
  · cases h
  next hempty =>
    split at h
    next =>
      rw [← Option.some.inj h]
      decide
    next hfast =>
      rw [← Option.some.inj h, normalizeServiceTierValue, Text.trim_lowercase, Text.trim_trim]
      dsimp only
      rw [Text.isEmpty_lowercase, if_neg hempty, Text.lowercase_lowercase, if_neg hfast]

variable {value value' : Json}

theorem adaptCodexServiceTierField_of_normal (h : TierNormal value) :
    adaptCodexServiceTierField value = (value, false) := by
  rw [adaptCodexServiceTierField]
  cases htier : value.getStr "service_tier" with
  | none => rfl
  | some serviceTier =>
      dsimp only
      rcases h serviceTier htier with hnone | hsame
      · rw [hnone]
      · rw [hsame]
        exact if_pos rfl

theorem tierNormal_adaptCodexServiceTierField (value : Json) :
    TierNormal (adaptCodexServiceTierField value).1 := by
  rw [adaptCodexServiceTierField]
  cases htier : value.getStr "service_tier" with
  | none =>
      intro serviceTier hsome
      cases hsome.symm.trans htier
  | some serviceTier =>
      dsimp only
      cases hnormal : normalizeServiceTierValue serviceTier with
      | none =>
          intro serviceTier' hsome
          rw [← Option.some.inj (htier.symm.trans hsome)]
          exact .inl hnormal
      | some normalized =>
          dsimp only
          split
          next heq =>
            intro serviceTier' hsome
            rw [← Option.some.inj (htier.symm.trans hsome)]
            exact .inr (hnormal.trans (congrArg some heq.symm))
          next =>
            intro serviceTier' hsome
            rw [Json.getStr, Json.get_insert_self (Json.isObject_of_getStr htier)] at hsome
            rw [← Option.some.inj hsome]
            exact .inr (normalizeServiceTierValue_normal hnormal)

variable {k : String}

theorem get_adaptCodexServiceTierField (hk : k ≠ "service_tier") :
    (adaptCodexServiceTierField value).1.get k = value.get k := by
  rw [adaptCodexServiceTierField]
  split
  · rfl
  · split
    · rfl
    · split
      · rfl
      · exact Json.get_insert_of_ne value hk _

theorem isObject_adaptCodexServiceTierField (value : Json) :
    (adaptCodexServiceTierField value).1.isObject = value.isObject := by
  rw [adaptCodexServiceTierField]
  split
  · rfl
  · split
    · rfl
    · split
      · rfl
      · exact Json.isObject_insert value _ _

theorem sorted_adaptCodexServiceTierField (h : value.Sorted) :
    (adaptCodexServiceTierField value).1.Sorted := by
  rw [adaptCodexServiceTierField]
  split
  · exact h
  · split
    · exact h
    · split
      · exact h
      · exact h.insert _ _

theorem getStr_of_get_eq (h : value.get k = value'.get k) :
    value.getStr k = value'.getStr k := by
  rw [Json.getStr, Json.getStr, h]

theorem TierNormal.of_get_eq (h : TierNormal value)
    (hget : value'.get "service_tier" = value.get "service_tier") : TierNormal value' := by
  intro serviceTier hsome
  rw [getStr_of_get_eq hget] at hsome
  exact h serviceTier hsome

/-! ## What the service tiers of a request become -/

/-- The service tiers of a request are not changed any more. -/
def TiersNormal (value : Json) : Prop :=
  TierNormal value ∧ ∀ response, value.get "response" = some response → TierNormal response

theorem adaptTiers_of_normal (h : TiersNormal value) :
    adaptCodexServiceTierFieldsInValue value = (value, false) := by
  rw [adaptCodexServiceTierFieldsInValue, adaptCodexServiceTierField_of_normal h.1]
  dsimp only
  cases hresponse : value.get "response" with
  | none => rfl
  | some response =>
      dsimp only
      rw [adaptCodexServiceTierField_of_normal (h.2 response hresponse)]
      rfl

theorem adaptCodexServiceTierField_unchanged (h : (adaptCodexServiceTierField value).2 = false) :
    (adaptCodexServiceTierField value).1 = value := by
  rw [adaptCodexServiceTierField] at h ⊢
  cases htier : value.getStr "service_tier" with
  | none => rfl
  | some serviceTier =>
      rw [htier] at h
      dsimp only at h ⊢
      cases hnormal : normalizeServiceTierValue serviceTier with
      | none => rfl
      | some normalized =>
          rw [hnormal] at h
          dsimp only at h ⊢
          by_cases hsame : serviceTier = normalized
          · rw [if_pos hsame]
          · rw [if_neg hsame] at h
            cases h

/-- The response of a request with its service tier in normal spelling. -/
theorem get_response_adaptTiers (value : Json) :
    (adaptCodexServiceTierFieldsInValue value).1.get "response" =
      (value.get "response").map fun response => (adaptCodexServiceTierField response).1 := by
  have hget : (adaptCodexServiceTierField value).1.get "response" = value.get "response" :=
    get_adaptCodexServiceTierField (by decide)
  rw [adaptCodexServiceTierFieldsInValue]
  dsimp only
  rw [hget]
  cases hresponse : value.get "response" with
  | none => exact hget.trans hresponse
  | some response =>
      dsimp only
      rw [Option.map_some]
      cases hchanged : (adaptCodexServiceTierField response).2 with
      | false =>
          rw [if_neg Bool.false_ne_true, adaptCodexServiceTierField_unchanged hchanged]
          exact hget.trans hresponse
      | true =>
          rw [if_pos rfl]
          apply Json.get_insert_self
          rw [isObject_adaptCodexServiceTierField]
          cases value with
          | obj fields => rfl
          | _ => cases hresponse

theorem get_adaptTiers (hk : k ≠ "service_tier") (hk' : k ≠ "response") :
    (adaptCodexServiceTierFieldsInValue value).1.get k = value.get k := by
  rw [adaptCodexServiceTierFieldsInValue]
  dsimp only
  split
  · dsimp only
    exact get_adaptCodexServiceTierField hk
  · dsimp only
    split
    · rw [Json.get_insert_of_ne _ hk', get_adaptCodexServiceTierField hk]
    · exact get_adaptCodexServiceTierField hk

theorem get_serviceTier_adaptTiers (value : Json) :
    (adaptCodexServiceTierFieldsInValue value).1.get "service_tier" =
      (adaptCodexServiceTierField value).1.get "service_tier" := by
  rw [adaptCodexServiceTierFieldsInValue]
  dsimp only
  split
  · rfl
  · dsimp only
    split
    · exact Json.get_insert_of_ne _ (by decide) _
    · rfl

theorem tiersNormal_adaptTiers (value : Json) :
    TiersNormal (adaptCodexServiceTierFieldsInValue value).1 := by
  constructor
  · exact (tierNormal_adaptCodexServiceTierField value).of_get_eq
      (get_serviceTier_adaptTiers value)
  · intro response hresponse
    rw [get_response_adaptTiers] at hresponse
    rcases Option.map_eq_some_iff.1 hresponse with ⟨old, -, rfl⟩
    exact tierNormal_adaptCodexServiceTierField old

theorem isObject_adaptTiers (value : Json) :
    (adaptCodexServiceTierFieldsInValue value).1.isObject = value.isObject := by
  rw [adaptCodexServiceTierFieldsInValue]
  dsimp only
  split
  · exact isObject_adaptCodexServiceTierField value
  · dsimp only
    split
    · rw [Json.isObject_insert, isObject_adaptCodexServiceTierField]
    · exact isObject_adaptCodexServiceTierField value

theorem sorted_adaptTiers (h : value.Sorted) :
    (adaptCodexServiceTierFieldsInValue value).1.Sorted := by
  have hsorted := sorted_adaptCodexServiceTierField h
  rw [adaptCodexServiceTierFieldsInValue]
  dsimp only
  split
  · exact hsorted
  · dsimp only
    split
    · exact hsorted.insert _ _
    · exact hsorted

/-! ## What the other fields become -/

/-- The names of the fields that the adaptation writes, besides the service tiers. -/
def adaptedFields : List String :=
  ["instructions"] ++ ["input"] ++ ["max_output_tokens"] ++ ["conversation"] ++
    (["store"] ++ ["stream"])

/-- A step of the adaptation that writes to some fields only. -/
structure Writes (fields : List String) (value adapted : Json) : Prop where
  get : ∀ k, k ∉ fields → adapted.get k = value.get k
  isObject : adapted.isObject = value.isObject
  sorted : value.Sorted → adapted.Sorted

theorem Writes.refl (fields : List String) (value : Json) : Writes fields value value :=
  ⟨fun _ _ => rfl, rfl, id⟩

theorem Writes.trans {fields fields' : List String} {value'' : Json}
    (h : Writes fields value value') (h' : Writes fields' value' value'') :
    Writes (fields ++ fields') value value'' where
  get k hk := by
    rw [List.mem_append, not_or] at hk
    rw [h'.get k hk.2, h.get k hk.1]
  isObject := h'.isObject.trans h.isObject
  sorted hsorted := h'.sorted (h.sorted hsorted)

theorem writes_insert (value : Json) (k : String) (x : Json) :
    Writes [k] value (value.insert k x) where
  get _ hk := Json.get_insert_of_ne value (List.ne_of_not_mem_cons hk) x
  isObject := Json.isObject_insert value k x
  sorted hsorted := hsorted.insert k x

theorem writes_remove (value : Json) (k : String) : Writes [k] value (value.remove k) where
  get _ hk := Json.get_remove_of_ne value (List.ne_of_not_mem_cons hk)
  isObject := Json.isObject_remove value k
  sorted hsorted := hsorted.remove k

theorem writes_adaptInstructions (value : Json) :
    Writes ["instructions"] value (adaptInstructions value).1 := by
  rw [adaptInstructions]
  split
  · exact .refl _ value
  · exact writes_insert value _ _

theorem writes_adaptInput (value : Json) : Writes ["input"] value (adaptInput value).1 := by
  rw [adaptInput]
  split
  · exact .refl _ value
  · split
    · exact .refl _ value
    · exact writes_insert value _ _

theorem writes_adaptStream (removed stream : Bool) (value : Json) :
    Writes (["store"] ++ ["stream"]) value (adaptStream removed stream value).1 := by
  rw [adaptStream]
  have hstore : ∀ b : Bool, Writes ["store"] value
      (if b then value.insert "store" (.bool false) else value) := by
    intro b
    cases b with
    | false => exact .refl _ value
    | true => exact writes_insert value _ _
  have hstream : ∀ value : Json, Writes ["stream"] value
      (if stream then value else value.insert "stream" (.bool true)) := by
    intro value
    cases stream with
    | false => exact writes_insert value _ _
    | true => exact .refl _ value
  exact (hstore _).trans (hstream _)

theorem writes_adaptCompact (value : Json) :
    Writes (["store"] ++ ["stream"]) value (adaptCompact value).1 :=
  (writes_remove value "store").trans (writes_remove _ "stream")

/-- The request after its parameters that the profile does not know were taken out. -/
def withoutUnknown (value : Json) : Json :=
  (takeField (takeField (adaptInput (adaptInstructions value).1).1 "max_output_tokens").1
    "conversation").1

theorem withoutUnknown_eq (value : Json) :
    withoutUnknown value = ((adaptInput (adaptInstructions value).1).1.remove
      "max_output_tokens").remove "conversation" := rfl

theorem writes_withoutUnknown (value : Json) :
    Writes (["instructions"] ++ ["input"] ++ ["max_output_tokens"] ++ ["conversation"]) value
      (withoutUnknown value) :=
  (((writes_adaptInstructions value).trans (writes_adaptInput _)).trans
    (writes_remove _ "max_output_tokens")).trans (writes_remove _ "conversation")

theorem adaptFields_fst (isCompact stream : Bool) (value : Json) :
    (adaptFields isCompact stream value).1 =
      if isCompact then (adaptCompact (withoutUnknown value)).1
      else (adaptStream (takeField (adaptInput (adaptInstructions value).1).1
        "max_output_tokens").2 stream (withoutUnknown value)).1 := by
  cases isCompact with
  | false => rfl
  | true => rfl

theorem writes_adaptFields (isCompact stream : Bool) (value : Json) :
    Writes adaptedFields value (adaptFields isCompact stream value).1 := by
  rw [adaptFields_fst]
  cases isCompact with
  | false => exact (writes_withoutUnknown value).trans (writes_adaptStream _ stream _)
  | true => exact (writes_withoutUnknown value).trans (writes_adaptCompact _)

/-! ## The normal form -/

/-- What the stream and the store of an adapted request are. -/
def StreamNormal (isCompact : Bool) (value : Json) : Prop :=
  if isCompact then value.get "store" = none ∧ value.get "stream" = none
  else value.get "stream" = some (.bool true)

/-- A request as the profile takes it. -/
structure CodexNormal (isCompact : Bool) (value : Json) : Prop where
  instructions : ∃ text, value.get "instructions" = some (.str text)
  input : ∀ input, value.get "input" = some input → input.asArray.isSome = true
  maxOutputTokens : value.get "max_output_tokens" = none
  conversation : value.get "conversation" = none
  stream : StreamNormal isCompact value
  tiers : TiersNormal value

theorem isArray_adaptCodexInputValue (input : Json) :
    (adaptCodexInputValue input).asArray.isSome = true := by
  cases input with
  | _ => rfl

theorem instructions_adaptInstructions (h : value.isObject = true) :
    ∃ text, (adaptInstructions value).1.get "instructions" = some (.str text) := by
  rw [adaptInstructions]
  split
  next text htext => exact ⟨text, htext⟩
  next => exact ⟨"", Json.get_insert_self h _ _⟩

theorem isObject_of_get {x : Json} (h : value.get k = some x) :
    value.isObject = true := by
  cases value with
  | obj fields => rfl
  | _ => cases h

theorem input_adaptInput (value : Json) :
    ∀ input, (adaptInput value).1.get "input" = some input → input.asArray.isSome = true := by
  rw [adaptInput]
  cases hinput : value.get "input" with
  | none =>
      intro input h
      cases h.symm.trans hinput
  | some old =>
      dsimp only
      split
      next harray =>
        intro input h
        rw [← Option.some.inj (hinput.symm.trans h)]
        exact harray
      next =>
        intro input h
        rw [Json.get_insert_self (isObject_of_get hinput)] at h
        rw [← Option.some.inj h]
        exact isArray_adaptCodexInputValue old

theorem get_stream_of_originalStream (h : originalStream value = true) :
    value.get "stream" = some (.bool true) := by
  rw [originalStream] at h
  cases hstream : value.get "stream" with
  | none =>
      rw [hstream] at h
      cases h
  | some x =>
      rw [hstream] at h
      cases x with
      | bool b => exact congrArg (fun b => some (Json.bool b)) h
      | _ => cases h

theorem originalStream_iff (value : Json) :
    originalStream value = true ↔ value.get "stream" = some (.bool true) := by
  refine ⟨get_stream_of_originalStream, fun h => ?_⟩
  rw [originalStream, h]
  rfl

theorem stream_adaptStream {removed stream : Bool} (hobject : value.isObject = true)
    (h : stream = true → value.get "stream" = some (.bool true)) :
    (adaptStream removed stream value).1.get "stream" = some (.bool true) := by
  rw [adaptStream]
  dsimp only
  cases stream with
  | true =>
      rw [if_pos rfl]
      split
      · exact (Json.get_insert_of_ne value (by decide) _).trans (h rfl)
      · exact h rfl
  | false =>
      rw [if_neg Bool.false_ne_true]
      apply Json.get_insert_self
      split
      · rw [Json.isObject_insert]
        exact hobject
      · exact hobject

variable {isCompact : Bool}

/-- The fields that the profile knows are in their normal form after the adaptation. -/
theorem codexNormal_adaptFields (hobject : value.isObject = true)
    (hsorted : value.Sorted) (htiers : TiersNormal value) :
    CodexNormal isCompact (adaptFields isCompact (originalStream value) value).1 := by
  have hwrites := writes_adaptFields isCompact (originalStream value) value
  have hunknown := writes_withoutUnknown value
  have hlast : Writes (["store"] ++ ["stream"]) (withoutUnknown value)
      (adaptFields isCompact (originalStream value) value).1 := by
    rw [adaptFields_fst]
    cases isCompact with
    | false => exact writes_adaptStream _ _ _
    | true => exact writes_adaptCompact _
  have hfirst := (writes_adaptInstructions value).trans (writes_adaptInput _)
  constructor
  · rw [hlast.get _ (by decide)]
    rcases instructions_adaptInstructions hobject with ⟨text, htext⟩
    refine ⟨text, ?_⟩
    rw [withoutUnknown_eq, Json.get_remove_of_ne _ (by decide),
      Json.get_remove_of_ne _ (by decide), (writes_adaptInput _).get _ (by decide)]
    exact htext
  · rw [hlast.get _ (by decide), withoutUnknown_eq,
      Json.get_remove_of_ne _ (by decide), Json.get_remove_of_ne _ (by decide)]
    exact input_adaptInput _
  · rw [hlast.get _ (by decide), withoutUnknown_eq,
      Json.get_remove_of_ne _ (by decide)]
    exact Json.get_remove_self (hfirst.sorted hsorted) _
  · rw [hlast.get _ (by decide), withoutUnknown_eq]
    exact Json.get_remove_self ((hfirst.sorted hsorted).remove _) _
  · rw [adaptFields_fst]
    cases isCompact with
    | false =>
        apply stream_adaptStream (hunknown.isObject.trans hobject)
        intro hstream
        rw [hunknown.get _ (by decide)]
        exact get_stream_of_originalStream hstream
    | true =>
        have hstored := hunknown.sorted hsorted
        refine ⟨?_, Json.get_remove_self (hstored.remove _) _⟩
        have hstore : (((withoutUnknown value).remove "store").remove "stream").get "store" =
            none := by
          rw [Json.get_remove_of_ne _ (by decide)]
          exact Json.get_remove_self hstored _
        exact hstore
  · constructor
    · exact htiers.1.of_get_eq (hwrites.get _ (by decide))
    · rw [hwrites.get _ (by decide)]
      exact htiers.2

/-- A request in the normal form is not adapted. -/
theorem adaptValue_of_normal (h : CodexNormal isCompact value) :
    adaptValue isCompact value = none := by
  rcases h.instructions with ⟨text, htext⟩
  have hinstructions : adaptInstructions value = (value, false) := by
    rw [adaptInstructions, htext]
  have hinput : adaptInput value = (value, false) := by
    rw [adaptInput]
    cases hinput : value.get "input" with
    | none => rfl
    | some input => exact if_pos (h.input input hinput)
  have htake : ∀ k, value.get k = none → takeField value k = (value, false) := by
    intro k hk
    rw [takeField, Json.remove_of_get hk, hk]
    rfl
  have hmode : (if isCompact then adaptCompact value
      else adaptStream false (originalStream value) value) = (value, false) := by
    have hstream := h.stream
    cases isCompact with
    | false =>
        have htrue : originalStream value = true := (originalStream_iff value).2 hstream
        rw [if_neg Bool.false_ne_true, adaptStream, htrue]
        rfl
    | true =>
        rw [if_pos rfl, adaptCompact, htake _ hstream.1]
        dsimp only
        rw [htake _ hstream.2]
        rfl
  have hfields : adaptFields isCompact (originalStream value) value = (value, false) := by
    rw [adaptFields, hinstructions]
    dsimp only
    rw [hinput]
    dsimp only
    rw [htake _ h.maxOutputTokens]
    dsimp only
    rw [htake _ h.conversation]
    dsimp only
    rw [hmode]
    rfl
  rw [adaptValue, adaptTiers_of_normal h.tiers]
  dsimp only
  rw [isObject_of_get htext, hfields]
  rfl

/-- What an adapted request has in common with the one it was made of. -/
structure AdaptedFrom (isCompact : Bool) (value adapted : Json) (bridge : Bool) : Prop where
  normal : CodexNormal isCompact adapted
  others : ∀ k, k ∉ adaptedFields → k ≠ "service_tier" → k ≠ "response" →
    adapted.get k = value.get k
  response : (value.get "response" = none → adapted.get "response" = none) ∧
    ∀ response, value.get "response" = some response → ∃ response',
      adapted.get "response" = some response' ∧
        (∀ k, k ≠ "service_tier" → response'.get k = response.get k) ∧
        (response.getStr "service_tier" = none → response' = response)
  bridge : bridge = true ↔ isCompact = false ∧ value.get "stream" ≠ some (.bool true)

theorem adaptValue_adaptedFrom {bridge : Bool} {adapted : Json}
    (hsorted : value.Sorted) (h : adaptValue isCompact value = some (adapted, bridge)) :
    AdaptedFrom isCompact value adapted bridge := by
  have hadapt : value.isObject = true ∧
      (adaptFields isCompact (originalStream (adaptCodexServiceTierFieldsInValue value).1)
        (adaptCodexServiceTierFieldsInValue value).1).1 = adapted ∧
      (!isCompact && !originalStream (adaptCodexServiceTierFieldsInValue value).1) = bridge := by
    rw [adaptValue] at h
    dsimp only at h
    split at h
    · cases h
    next hobject =>
      split at h
      · rw [Bool.not_eq_true, Bool.not_eq_false', isObject_adaptTiers] at hobject
        rcases Prod.mk.inj (Option.some.inj h) with ⟨hvalue, hbridge⟩
        exact ⟨hobject, hvalue, hbridge⟩
      · cases h
  rcases hadapt with ⟨hobject, rfl, rfl⟩
  have hwrites := writes_adaptFields isCompact
    (originalStream (adaptCodexServiceTierFieldsInValue value).1)
    (adaptCodexServiceTierFieldsInValue value).1
  constructor
  · exact codexNormal_adaptFields ((isObject_adaptTiers value).trans hobject)
      (sorted_adaptTiers hsorted) (tiersNormal_adaptTiers value)
  · intro k hk htier hresponse
    rw [hwrites.get k hk, get_adaptTiers htier hresponse]
  · rw [hwrites.get _ (by decide), get_response_adaptTiers]
    constructor
    · intro hnone
      rw [hnone]
      rfl
    · intro response hresponse
      refine ⟨(adaptCodexServiceTierField response).1, ?_, ?_, ?_⟩
      · rw [hresponse]
        rfl
      · exact fun k hk => get_adaptCodexServiceTierField hk
      · intro hnone
        rw [adaptCodexServiceTierField, hnone]
  · have hstream := originalStream_iff (adaptCodexServiceTierFieldsInValue value).1
    rw [get_adaptTiers (by decide) (by decide)] at hstream
    rw [Bool.and_eq_true, Bool.not_eq_true', Bool.not_eq_true', ne_eq, ← hstream,
      Bool.not_eq_true]

/-! ## Requests that were adapted -/

/-- The normal form does not depend on numbers. -/
theorem CodexNormal.of_eraseNumbers
    (h : CodexNormal isCompact value) (heq : value'.eraseNumbers = value.eraseNumbers) :
    CodexNormal isCompact value' := by
  have hget : ∀ k, (value'.get k).map Json.eraseNumbers = (value.get k).map Json.eraseNumbers := by
    intro k
    rw [← Json.get_eraseNumbers, ← Json.get_eraseNumbers, heq]
  have hnone : ∀ k, value.get k = none → value'.get k = none := by
    intro k hk
    have hmap := hget k
    rw [hk] at hmap
    exact Option.map_eq_none_iff.1 hmap
  have hsome : ∀ {v v' : Json} {k : String} {x : Json}, v'.eraseNumbers = v.eraseNumbers →
      v'.get k = some x → ∃ y, v.get k = some y ∧ x.eraseNumbers = y.eraseNumbers := by
    intro v v' k x hv hx
    have hmap : (v'.get k).map Json.eraseNumbers = (v.get k).map Json.eraseNumbers := by
      rw [← Json.get_eraseNumbers, ← Json.get_eraseNumbers, hv]
    rw [hx] at hmap
    rcases Option.map_eq_some_iff.1 hmap.symm with ⟨y, hy, hxy⟩
    exact ⟨y, hy, hxy.symm⟩
  have htier :
      ∀ {v v' : Json}, v'.eraseNumbers = v.eraseNumbers → TierNormal v → TierNormal v' := by
    intro v v' hv hnormal serviceTier hserviceTier
    rw [← Json.getStr_eraseNumbers, hv, Json.getStr_eraseNumbers] at hserviceTier
    exact hnormal serviceTier hserviceTier
  constructor
  · rcases h.instructions with ⟨text, htext⟩
    rcases hsome heq.symm htext with ⟨x, hx, hxtext⟩
    have hstr : x.asStr = some text := by
      rw [← Json.asStr_eraseNumbers, ← hxtext]
      rfl
    cases x with
    | str text' => exact ⟨text', hx⟩
    | _ => cases hstr
  · intro input hinput
    rcases hsome heq hinput with ⟨input', hinput', hsame⟩
    rw [← Json.isArray_eraseNumbers, hsame, Json.isArray_eraseNumbers]
    exact h.input input' hinput'
  · exact hnone _ h.maxOutputTokens
  · exact hnone _ h.conversation
  · have hstream := h.stream
    cases isCompact with
    | true => exact ⟨hnone _ hstream.1, hnone _ hstream.2⟩
    | false =>
        rcases hsome heq.symm hstream with ⟨x, hx, hxstream⟩
        have hbool : x.asBool = some true := by
          rw [← Json.asBool_eraseNumbers, ← hxstream]
          rfl
        cases x with
        | bool b => exact hx.trans (congrArg (fun b => some (Json.bool b)) (Option.some.inj hbool))
        | _ => cases hbool
  · refine ⟨htier heq h.tiers.1, fun response hresponse => ?_⟩
    rcases hsome heq hresponse with ⟨response', hresponse', hsame⟩
    exact htier hsame (h.tiers.2 response' hresponse')

section Request

variable {codec : SerdeJson} {decodeZstdBodyLimited : Bytes → Option Bytes}
  {mode : UpstreamMode} {basePath path : String} {headers : ContentEncodings} {body : Bytes}
  {adaptation : UpstreamRequestCompatibilityAdaptation}

theorem adaptation_of_request
    (h : maybeAdaptOpenaiResponsesRequestForCodexProfile codec decodeZstdBodyLimited mode basePath
      path headers body = some adaptation) :
    ∃ value adapted, parseRequestJsonBody codec decodeZstdBodyLimited headers body = some value ∧
      adaptValue (normalizeInputPath path = "/v1/responses/compact") value =
        some (adapted, adaptation.bridgeStreamResponse) ∧
      adaptation.body = (codec.toText adapted).toUTF8.toList := by
  rw [maybeAdaptOpenaiResponsesRequestForCodexProfile] at h
  split at h
  · cases h
  · dsimp only at h
    split at h
    · cases h
    · rcases Option.bind_eq_some_iff.1 h with ⟨value, hvalue, h⟩
      rcases Option.bind_eq_some_iff.1 h with ⟨⟨adapted, bridge⟩, hadapted, h⟩
      rw [← Option.some.inj h]
      exact ⟨value, adapted, hvalue, hadapted, rfl⟩

/-- An adapted request is in the normal form and is not adapted again, whatever its headers are,
when its text is read as it was written, up to the digits of numbers, and is no compressed body. -/
theorem adapted_request
    (hsorted : ∀ value, parseRequestJsonBody codec decodeZstdBodyLimited headers body =
      some value → value.Sorted)
    (hread : ∀ value adapted bridge,
      parseRequestJsonBody codec decodeZstdBodyLimited headers body = some value →
      adaptValue (normalizeInputPath path = "/v1/responses/compact") value =
        some (adapted, bridge) →
      ∀ read, codec.fromSlice (codec.toText adapted).toUTF8.toList = some read →
        read.eraseNumbers = adapted.eraseNumbers)
    (hzstd : ∀ value, decodeZstdBodyLimited (codec.toText value).toUTF8.toList = none)
    (h : maybeAdaptOpenaiResponsesRequestForCodexProfile codec decodeZstdBodyLimited mode basePath
      path headers body = some adaptation) :
    (∃ value adapted, parseRequestJsonBody codec decodeZstdBodyLimited headers body =
        some value ∧
      adaptation.body = (codec.toText adapted).toUTF8.toList ∧
      AdaptedFrom (normalizeInputPath path = "/v1/responses/compact") value adapted
        adaptation.bridgeStreamResponse) ∧
      ∀ headers', maybeAdaptOpenaiResponsesRequestForCodexProfile codec decodeZstdBodyLimited mode
        basePath path headers' adaptation.body = none := by
  rcases adaptation_of_request h with ⟨value, adapted, hvalue, hadapted, hbody⟩
  have hfrom := adaptValue_adaptedFrom (hsorted value hvalue) hadapted
  refine ⟨⟨value, adapted, hvalue, hbody, hfrom⟩, fun headers' => ?_⟩
  cases hagain : maybeAdaptOpenaiResponsesRequestForCodexProfile codec decodeZstdBodyLimited mode
      basePath path headers' adaptation.body with
  | none => rfl
  | some adaptation' =>
      rcases adaptation_of_request hagain with ⟨read, adapted', hread', hadapted', -⟩
      have hslice : codec.fromSlice (codec.toText adapted).toUTF8.toList = some read := by
        rw [hbody, parseRequestJsonBody, hzstd] at hread'
        split at hread'
        · cases hread'
        · dsimp only at hread'
          rwa [Option.bind_none, ite_self, Option.none_or] at hread'
      have hnormal := hfrom.normal.of_eraseNumbers
        (hread value adapted _ hvalue hadapted read hslice)
      rw [adaptValue_of_normal hnormal] at hadapted'
      cases hadapted'

end Request

/-! ## A request with a response -/

/-- The text of a request whose response carries a service tier. -/
def tieredText (tier : String) : String :=
  "\x7b\"instructions\":\"\",\"response\":\x7b\"service_tier\":\"" ++ tier ++
    "\"\x7d,\"stream\":true\x7d"

def tieredValue (tier : String) : Json :=
  .obj [("instructions", .str ""), ("response", .obj [("service_tier", .str tier)]),
    ("stream", .bool true)]

/-- A codec that knows two of these requests. -/
def tieredCodec : SerdeJson where
  fromSlice := (SerdeJson.ofTable [(tieredText "FAST", tieredValue "FAST"),
    (tieredText "priority", tieredValue "priority")]).fromSlice
  toText value :=
    tieredText (((value.get "response").bind (·.getStr "service_tier")).getD "")

def adaptTiered (headers : ContentEncodings) (body : Bytes) :
    Option UpstreamRequestCompatibilityAdaptation :=
  maybeAdaptOpenaiResponsesRequestForCodexProfile tieredCodec (fun _ => none) .codexOauth
    "/backend-api/codex" "/v1/responses" headers body

theorem fromSlice_fast : tieredCodec.fromSlice (Bytes.ofAscii (tieredText "FAST")) =
    some (tieredValue "FAST") := by rfl

theorem fromSlice_priority : tieredCodec.fromSlice (Bytes.ofAscii (tieredText "priority")) =
    some (tieredValue "priority") := by rfl

theorem parse_tiered : parseRequestJsonBody tieredCodec (fun _ => none) []
    (Bytes.ofAscii (tieredText "FAST")) = some (tieredValue "FAST") := by
  rw [parseRequestJsonBody]
  exact fromSlice_fast

theorem adapt_tiered :
    adaptValue (normalizeInputPath "/v1/responses" = "/v1/responses/compact")
      (tieredValue "FAST") = some (tieredValue "priority", false) := by rfl

theorem adapted_tiered : adaptTiered [] (Bytes.ofAscii (tieredText "FAST")) =
    some ⟨Bytes.ofAscii (tieredText "priority"), false, false⟩ := by decide +kernel

theorem toUTF8_tieredText :
    (tieredText "priority").toUTF8.toList = Bytes.ofAscii (tieredText "priority") :=
  Bytes.toUTF8_ascii (by decide +kernel)

theorem adapted_request_tiered :
    adaptTiered [some "zstd"] (Bytes.ofAscii (tieredText "priority")) = none := by
  refine (adapted_request ?_ ?_ (fun _ => rfl) adapted_tiered).2 [some "zstd"]
  · intro value hvalue
    rw [← Option.some.inj (parse_tiered.symm.trans hvalue)]
    change ["instructions", "response", "stream"].Pairwise (· < ·)
    decide
  · intro value adapted bridge hvalue hadapted read hread
    rw [← Option.some.inj (parse_tiered.symm.trans hvalue), adapt_tiered] at hadapted
    rw [← (Prod.mk.inj (Option.some.inj hadapted)).1] at hread ⊢
    have htext : tieredCodec.toText (tieredValue "priority") = tieredText "priority" := rfl
    rw [htext, toUTF8_tieredText] at hread
    rw [← Option.some.inj (fromSlice_priority.symm.trans hread)]

/-- The service tier in the response of a request is adapted as well. -/
theorem response_tier_adapted :
    adaptTiered [] (Bytes.ofAscii (tieredText "FAST")) =
        some ⟨Bytes.ofAscii (tieredText "priority"), false, false⟩ ∧
      ((tieredCodec.fromSlice (Bytes.ofAscii (tieredText "FAST"))).bind
        (·.get "response")).bind (·.getStr "service_tier") = some "FAST" ∧
      ((tieredCodec.fromSlice (Bytes.ofAscii (tieredText "priority"))).bind
        (·.get "response")).bind (·.getStr "service_tier") = some "priority" := by
  rw [fromSlice_fast, fromSlice_priority]
  exact ⟨adapted_tiered, rfl, rfl⟩

end CodexPool
