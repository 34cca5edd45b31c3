import CodexPool.DataPlane.Settle
import CodexPool.Responses.Store

/-!
# Usage of a response

The tokens and the service tier that are read off a response, wherever it is found in an
event, and the estimate that stands for the tokens when the response has none.
-/

namespace CodexPool

open Saturating

/-! ## Service tiers -/

def normalizeServiceTierValue (raw : String) : Option String :=
  let trimmed := Text.trim raw
  if trimmed.isEmpty then none
  else
    let lowered := Text.toAsciiLowercase trimmed
    if lowered = "fast" then some "priority" else some lowered

def extractServiceTierFromField (field : Option Json) : Option String :=
  (field.bind Json.asStr).bind normalizeServiceTierValue

def extractServiceTierFromValue (value : Json) : Option String :=
  (extractServiceTierFromField (value.get "service_tier")).or
    ((value.get "response").bind fun response =>
      extractServiceTierFromField (response.get "service_tier"))

/-! ## Tokens -/

def asTokens (field : Option Json) : Option I64 := (field.bind Json.asI64).map I64.ofInt

/-- The tokens of the field `usage`, `none` when they are all zero. -/
def usageTokensFromUsageObject (value : Json) : Option UsageTokens :=
  match value.get "usage" with
  | none => none
  | some usage =>
    let inputTokens := asTokens ((usage.get "input_tokens").or (usage.get "prompt_tokens"))
    let outputTokens :=
      asTokens ((usage.get "output_tokens").or (usage.get "completion_tokens"))
    let reasoningTokens := max ((asTokens
      (((usage.get "output_tokens_details").bind (·.get "reasoning_tokens")).or
        ((usage.get "completion_tokens_details").bind (·.get "reasoning_tokens")))).getD 0) 0
    let normalizedInputTokens := max (inputTokens.getD 0) 0
    let normalizedOutputTokens := max (outputTokens.getD reasoningTokens) 0
    let cachedInputTokens := min (max ((asTokens
      (((usage.get "input_tokens_details").bind (·.get "cached_tokens")).or
        ((usage.get "prompt_tokens_details").bind (·.get "cached_tokens")))).getD 0) 0)
      normalizedInputTokens
    if normalizedInputTokens = 0 ∧ normalizedOutputTokens = 0 ∧ reasoningTokens = 0 then none
    else
      some ⟨normalizedInputTokens, cachedInputTokens, normalizedOutputTokens, reasoningTokens⟩

mutual

/-- The first usage that is found in a value, an object before its fields. -/
def extractUsageTokensFromValue : Json → Option UsageTokens
  | .obj fields =>
    (usageTokensFromUsageObject (.obj fields)).or (extractUsageTokensFromFields fields)
  | .arr items => extractUsageTokensFromItems items
  | _ => none

def extractUsageTokensFromFields : List (String × Json) → Option UsageTokens
  | [] => none
  | (_, value) :: fields =>
    (extractUsageTokensFromValue value).or (extractUsageTokensFromFields fields)

def extractUsageTokensFromItems : List Json → Option UsageTokens
  | [] => none
  | value :: items =>
    (extractUsageTokensFromValue value).or (extractUsageTokensFromItems items)

end

def extractUsageTokens (codec : SerdeJson) (body : Bytes) : Option UsageTokens :=
  (codec.fromSlice body).bind extractUsageTokensFromValue

/-! ## Estimates -/

/-- About four characters make a token. -/
def roughTokenEstimateFromCharCount (charCount : Nat) : I64 :=
  I64.ofInt ((charCount + 3) / 4)

def textChars (field : Option Json) : Nat :=
  ((field.bind Json.asStr).map String.length).getD 0

mutual

def collectRequestTextChars : Json → Nat
  | .str text => text.length
  | .arr items => collectItemsTextChars items
  | .obj fields =>
    textChars (Json.lookupField "text" fields) +
      textChars (Json.lookupField "input_text" fields) +
      collectFieldTextChars "content" fields + collectFieldTextChars "parts" fields
  | _ => 0

def collectItemsTextChars : List Json → Nat
  | [] => 0
  | value :: items => collectRequestTextChars value + collectItemsTextChars items

/-- The characters under the field `k`. -/
def collectFieldTextChars (k : String) : List (String × Json) → Nat
  | [] => 0
  | (k', value) :: fields =>
    if k = k' then collectRequestTextChars value else collectFieldTextChars k fields

end

/-- The characters of a response: of the first place that has any. -/
def responseTextChars (value : Json) : Nat :=
  let outputText := textChars (value.get "output_text")
  if outputText ≠ 0 then outputText
  else
    let output := ((value.get "output").map collectRequestTextChars).getD 0
    if output ≠ 0 then output
    else
      let choices := ((value.get "choices").map collectRequestTextChars).getD 0
      if choices ≠ 0 then choices else collectRequestTextChars value

def estimateResponseOutputTokens (codec : SerdeJson) (body : Bytes) : Option I64 :=
  (codec.fromSlice body).bind fun value =>
    if responseTextChars value = 0 then none
    else some (roughTokenEstimateFromCharCount (responseTextChars value))

example : extractUsageTokensFromValue (.ofFields [("type", .str "response.completed"),
    ("response", .ofFields [("usage", .ofFields [("input_tokens", .int 7)])])]) =
    some ⟨7, 0, 0, 0⟩ := by decide +kernel

end CodexPool
