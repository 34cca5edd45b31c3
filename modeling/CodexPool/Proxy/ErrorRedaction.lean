import CodexPool.Lib.JsonNumbers
import CodexPool.Lib.Text
import CodexPool.Lib.Utf8
import CodexPool.Proxy.UpstreamError

/-!
# Redacting the errors of upstreams

The text of an error is kept without what the user has written. In a JSON body the values under
sensitive keys are replaced, whatever they are, and the rest is cut off and cleaned. What is kept
does not depend on the values that are replaced.
-/

namespace CodexPool

def sanitizedUpstreamRawMaxChars : Nat := 2048
def sanitizedUpstreamRawMaxDepth : Nat := 6
def sanitizedUpstreamRawMaxItems : Nat := 12

def isSensitiveUpstreamErrorKey (key : String) : Bool :=
  Text.toAsciiLowercase (Text.trim key) ∈
    ["input", "prompt", "messages", "instructions", "content", "text", "arguments", "args",
      "user_prompt", "conversation", "history", "tool_input", "tool_output", "tool_calls",
      "response", "completion", "raw_input", "raw_prompt", "file", "files", "attachment",
      "attachments"]

/-- The regular expressions of the module, each with what it puts in the place of its matches. -/
structure ErrorPatterns where
  email : String → String
  uuid : String → String
  requestId : String → String
  modelName : String → String
  number : String → String
  whitespace : String → String

section Sanitize

variable (patterns : ErrorPatterns) (model : Option String)

def sanitizeUpstreamErrorText (text : String) : String :=
  let sanitized := Text.trim text
  let sanitized := match Text.trimmed? model with
    | some model => sanitized.replace model "\x7bmodel\x7d"
    | none => sanitized
  let sanitized := patterns.email sanitized
  let sanitized := patterns.uuid sanitized
  let sanitized := patterns.requestId sanitized
  let sanitized := patterns.modelName sanitized
  let sanitized := patterns.number sanitized
  patterns.whitespace (Text.trim sanitized)

/-- The first fields by their keys, with a mark when there are more. -/
def keepFields (fields : List (String × Json)) : Json :=
  let kept := Json.ofFields
    ((fields.mergeSort fun f g => f.1 ≤ g.1).take sanitizedUpstreamRawMaxItems)
  if sanitizedUpstreamRawMaxItems < fields.length then kept.insert "_truncated" (.bool true)
  else kept

/-- The first items, with a mark when there are more. -/
def keepItems (items : List Json) : Json :=
  .arr (items.take sanitizedUpstreamRawMaxItems ++
    if sanitizedUpstreamRawMaxItems < items.length then [.str "[truncated]"] else [])

mutual

/-- Every member is sanitized before the first of them are kept. -/
def sanitizeUpstreamErrorJsonValue (key : Option String) (depth : Nat) : Json → Json
  | .obj fields =>
    if key.any isSensitiveUpstreamErrorKey then .str "[redacted]"
    else if sanitizedUpstreamRawMaxDepth ≤ depth then .str "[truncated]"
    else keepFields (sanitizeFields (depth + 1) fields)
  | .arr items =>
    if key.any isSensitiveUpstreamErrorKey then .str "[redacted]"
    else if sanitizedUpstreamRawMaxDepth ≤ depth then .str "[truncated]"
    else keepItems (sanitizeItems (depth + 1) items)
  | .str text =>
    if key.any isSensitiveUpstreamErrorKey then .str "[redacted]"
    else if sanitizedUpstreamRawMaxDepth ≤ depth then .str "[truncated]"
    else .str (sanitizeUpstreamErrorText patterns model text)
  | value =>
    if key.any isSensitiveUpstreamErrorKey then .str "[redacted]"
    else if sanitizedUpstreamRawMaxDepth ≤ depth then .str "[truncated]"
    else value

def sanitizeFields (depth : Nat) : List (String × Json) → List (String × Json)
  | [] => []
  | (key, value) :: fields =>
    (key, sanitizeUpstreamErrorJsonValue (some key) depth value) :: sanitizeFields depth fields

def sanitizeItems (depth : Nat) : List Json → List Json
  | [] => []
  | item :: items =>
    sanitizeUpstreamErrorJsonValue none depth item :: sanitizeItems depth items

end

def truncateUpstreamErrorText (value : String) : String :=
  if value.toList.length ≤ sanitizedUpstreamRawMaxChars then value
  else String.ofList (value.toList.take sanitizedUpstreamRawMaxChars) ++ "...[truncated]"

def sanitizeUpstreamErrorRaw (codec : SerdeJson) (raw : Option String) : Option String :=
  (Text.trimmed? raw).map fun raw =>
    truncateUpstreamErrorText
      (match codec.fromSlice raw.toUTF8.toList with
      | some value =>
        codec.toText (sanitizeUpstreamErrorJsonValue patterns model none 0 value)
      | none => sanitizeUpstreamErrorText patterns model raw)

end Sanitize

/-! ## What is not kept -/

mutual

/-- The value without all values under sensitive keys. -/
def eraseSensitive : Json → Json
  | .arr items => .arr (eraseSensitiveItems items)
  | .obj fields => .obj (eraseSensitiveFields fields)
  | value => value

def eraseSensitiveItems : List Json → List Json
  | [] => []
  | item :: items => eraseSensitive item :: eraseSensitiveItems items

def eraseSensitiveFields : List (String × Json) → List (String × Json)
  | [] => []
  | (key, value) :: fields =>
    (key, if isSensitiveUpstreamErrorKey key then .null else eraseSensitive value) ::
      eraseSensitiveFields fields

end

/-- The values are the same except for those under sensitive keys, at any depth. -/
def DifferOnlySensitively (v w : Json) : Prop := eraseSensitive v = eraseSensitive w

/-- The error has a JSON body that is read as the value. -/
def ReadsAs (codec : SerdeJson) (raw : Option String) (value : Json) : Prop :=
  ∃ text, Text.trimmed? raw = some text ∧ codec.fromSlice text.toUTF8.toList = some value

section Redaction

variable {patterns : ErrorPatterns} {model : Option String}

theorem sanitize_of_sensitive {key : String} (h : isSensitiveUpstreamErrorKey key = true)
    (depth : Nat) (value : Json) :
    sanitizeUpstreamErrorJsonValue patterns model (some key) depth value = .str "[redacted]" := by
  cases value with
  | _ => simp [sanitizeUpstreamErrorJsonValue, h]

mutual

theorem sanitize_eraseSensitive (key : Option String) (depth : Nat) :
    ∀ value, sanitizeUpstreamErrorJsonValue patterns model key depth (eraseSensitive value) =
      sanitizeUpstreamErrorJsonValue patterns model key depth value
  | .null | .bool _ | .num _ | .str _ => rfl
  | .arr items => by
      rw [eraseSensitive, sanitizeUpstreamErrorJsonValue, sanitizeUpstreamErrorJsonValue,
        sanitizeItems_eraseSensitive (depth + 1) items]
  | .obj fields => by
      rw [eraseSensitive, sanitizeUpstreamErrorJsonValue, sanitizeUpstreamErrorJsonValue,
        sanitizeFields_eraseSensitive (depth + 1) fields]

theorem sanitizeItems_eraseSensitive (depth : Nat) :
    ∀ items, sanitizeItems patterns model depth (eraseSensitiveItems items) =
      sanitizeItems patterns model depth items
  | [] => rfl
  | item :: items => by
      rw [eraseSensitiveItems, sanitizeItems, sanitizeItems,
        sanitize_eraseSensitive none depth item, sanitizeItems_eraseSensitive depth items]

theorem sanitizeFields_eraseSensitive (depth : Nat) :
    ∀ fields, sanitizeFields patterns model depth (eraseSensitiveFields fields) =
      sanitizeFields patterns model depth fields
  | [] => rfl
  | (key, value) :: fields => by
      rw [eraseSensitiveFields, sanitizeFields, sanitizeFields,
        sanitizeFields_eraseSensitive depth fields]
      by_cases hkey : isSensitiveUpstreamErrorKey key = true
      · rw [sanitize_of_sensitive hkey, sanitize_of_sensitive hkey]
      · rw [if_neg hkey, sanitize_eraseSensitive (some key) depth value]

end

end Redaction

/-- Two JSON bodies that differ under sensitive keys only are kept as the same text. -/
theorem sanitizeUpstreamErrorRaw_eq (patterns : ErrorPatterns) (model : Option String)
    (codec : SerdeJson) {raw raw' : Option String} {v w : Json} (hv : ReadsAs codec raw v)
    (hw : ReadsAs codec raw' w) (h : DifferOnlySensitively v w) :
    sanitizeUpstreamErrorRaw patterns model codec raw =
      sanitizeUpstreamErrorRaw patterns model codec raw' := by
  rcases hv with ⟨text, htext, hread⟩
  rcases hw with ⟨text', htext', hread'⟩
  have hsame : sanitizeUpstreamErrorJsonValue patterns model none 0 v =
      sanitizeUpstreamErrorJsonValue patterns model none 0 w := by
    rw [← sanitize_eraseSensitive none 0 v, h, sanitize_eraseSensitive none 0 w]
  rw [sanitizeUpstreamErrorRaw, sanitizeUpstreamErrorRaw, htext, htext', Option.map_some,
    Option.map_some, hread, hread']
  dsimp only
  rw [hsame]

/-! ## An error with a prompt -/

/-- The text of a body with one prompt. -/
def promptText (prompt : String) : String :=
  "\x7b\"error\":\x7b\"code\":\"bad\",\"input\":\"" ++ prompt ++ "\"\x7d\x7d"

def promptValue (prompt : String) : Json :=
  .obj [("error", .obj [("code", .str "bad"), ("input", .str prompt)])]

/-- A codec that knows two of these bodies. -/
def promptCodec : SerdeJson where
  fromSlice := (SerdeJson.ofTable [(promptText "a", promptValue "a"),
    (promptText "bc", promptValue "bc")]).fromSlice
  toText value := promptText (((value.get "error").bind (·.getStr "input")).getD "")

/-- Nothing in these bodies is matched by the patterns. -/
def noPatterns : ErrorPatterns := ⟨id, id, id, id, id, id⟩

theorem readsAs_promptText_short : ReadsAs promptCodec (some (promptText "a")) (promptValue "a") :=
  ⟨promptText "a", by decide +kernel, by
    have htext : (promptText "a").toUTF8.toList = Bytes.ofAscii (promptText "a") :=
      Bytes.toUTF8_ascii (by decide +kernel)
    rw [htext]
    rfl⟩

theorem readsAs_promptText_long :
    ReadsAs promptCodec (some (promptText "bc")) (promptValue "bc") :=
  ⟨promptText "bc", by decide +kernel, by
    have htext : (promptText "bc").toUTF8.toList = Bytes.ofAscii (promptText "bc") :=
      Bytes.toUTF8_ascii (by decide +kernel)
    rw [htext]
    rfl⟩

theorem sanitizeUpstreamErrorRaw_prompt :
    sanitizeUpstreamErrorRaw noPatterns none promptCodec (some (promptText "a")) =
      sanitizeUpstreamErrorRaw noPatterns none promptCodec (some (promptText "bc")) := by
  have hkey : isSensitiveUpstreamErrorKey "input" = true := by decide +kernel
  refine sanitizeUpstreamErrorRaw_eq noPatterns none promptCodec readsAs_promptText_short
    readsAs_promptText_long ?_
  simp [DifferOnlySensitively, promptValue, eraseSensitive, eraseSensitiveFields, hkey]

end CodexPool
