import CodexPool.Proxy.UpstreamError

/-!
# The prelude of a stream

Before the first bytes of a stream go to the client, the data plane buffers its chunks as
long as they bring nothing but the announcement of the response, and searches each buffer
for an error. The search reads the payloads of the data lines and, in the end, the whole
buffer; what is no JSON text is searched for the words of an error.
-/

namespace CodexPool

def streamPreludeBufferMaxBytes : Nat := 32 * 1024

def streamPreludeBufferMaxChunks : Nat := 16

/-! ## Payloads -/

def isStreamPreludeMetadataPayload (value : Json) : Bool :=
  (value.getStr "type").any fun kind =>
    kind = "response.created" || kind = "response.in_progress"

def isStreamErrorPayload (value : Json) : Bool :=
  (value.get "error").isSome ||
    ((value.get "code").isSome && (value.get "message").isSome) ||
    (value.getStr "type").any fun kind =>
      kind = "error" || kind = "response.error" || kind = "response.failed" ||
        kind = "response.incomplete"

/-- The error of the response is put where the details of a body are looked for. -/
def normalizedStreamError (value : Json) : Json :=
  if (value.get "error").isSome then value
  else
    match (value.get "response").bind (·.get "error") with
    | some error => value.insert "error" error
    | none =>
      match ((value.get "response").bind (·.get "incomplete_details")).bind
          (·.getStr "reason") with
      | some reason =>
        (value.insert "code" (.str reason)).insert "message"
          (.str ("Incomplete response returned, reason: " ++ reason))
      | none => value

section Inspect

variable (codec : SerdeJson) (status : Nat) (headers : UpstreamHeaders)

def normalizeStreamErrorPayload (value : Json) : Bytes :=
  (codec.toText (normalizedStreamError value)).toUTF8.toList

def parseJsonErrorPayload (payload : Bytes) : Option UpstreamErrorContext :=
  match codec.fromSlice payload with
  | none => none
  | some value =>
    if isStreamErrorPayload value then
      buildUpstreamErrorContext codec status headers (normalizeStreamErrorPayload codec value)
    else none

def linePayload (line : String) : Option Bytes :=
  match Text.stripPrefix (Text.trim line) "data:" with
  | none => none
  | some rest =>
    let payload := Text.trimStart rest
    if payload = "[DONE]" ∨ payload.isEmpty then none else some payload.toUTF8.toList

def dataPayloads (text : String) : List Bytes := (Text.lines text).filterMap linePayload

def parsePayload (payload : Bytes) : Option UpstreamErrorContext :=
  (parseJsonErrorPayload codec status headers payload).or
    (buildUpstreamErrorContext codec status headers payload)

def parseStreamPreludeErrorContext (chunk : Bytes) : Option UpstreamErrorContext :=
  match parseJsonErrorPayload codec status headers chunk with
  | some context => some context
  | none =>
    match Bytes.fromUtf8 chunk with
    | none => none
    | some text =>
      ((dataPayloads text).findSome? (parsePayload codec status headers)).or
        (buildUpstreamErrorContext codec status headers chunk)

/-! ## Buffering -/

/-- A line that has nothing but the announcement of the response. -/
def isPreludeLine (rawLine : Bytes) : Bool :=
  let line := Bytes.trimAscii
    (if rawLine.getLast? = some 0x0D then rawLine.dropLast else rawLine)
  if line.isEmpty || (Bytes.ofAscii ":").isPrefixOf line ||
      (Bytes.ofAscii "event:").isPrefixOf line || (Bytes.ofAscii "id:").isPrefixOf line ||
      (Bytes.ofAscii "retry:").isPrefixOf line then true
  else
    match Bytes.stripPrefix (Bytes.ofAscii "data:") line with
    | none => false
    | some rest =>
      let payload := Bytes.trimAscii rest
      if payload.isEmpty || payload = Bytes.ofAscii "[DONE]" then true
      else (codec.fromSlice payload).any isStreamPreludeMetadataPayload

/-- Only the lines that are complete are looked at. -/
def shouldContinueStreamPrelude (buffered : Bytes) : Bool :=
  (buffered.splitOn 0x0A).dropLast.all (isPreludeLine codec) && !buffered.isEmpty

/-- The buffer is complete. -/
def isPreludeEnd (preludeBytes : Bytes) (preludeChunks : List Bytes) : Bool :=
  decide (streamPreludeBufferMaxBytes ≤ preludeBytes.length) ||
    decide (streamPreludeBufferMaxChunks ≤ preludeChunks.length) ||
    !shouldContinueStreamPrelude codec preludeBytes

/-- What comes from the upstream: a chunk, or an error that ends the stream. -/
abbrev UpstreamItem := Except String Bytes

inductive StreamPreludeError where
  | upstreamReadFailed (err : String)
  | endOfStreamBeforeCommit
  | upstreamErrorResponse (context : UpstreamErrorContext)

/-- The chunks that are buffered, and what is left of the stream. -/
def readStreamPrelude (preludeBytes : Bytes) (preludeChunks : List Bytes) :
    List UpstreamItem → Except StreamPreludeError (List Bytes × List UpstreamItem)
  | [] => .error .endOfStreamBeforeCommit
  | .error err :: _ => .error (.upstreamReadFailed err)
  | .ok chunk :: stream =>
    if chunk.isEmpty then readStreamPrelude preludeBytes preludeChunks stream
    else
      let preludeBytes := preludeBytes ++ chunk
      let preludeChunks := preludeChunks ++ [chunk]
      match parseStreamPreludeErrorContext codec status headers preludeBytes with
      | some context => .error (.upstreamErrorResponse context)
      | none =>
        if isPreludeEnd codec preludeBytes preludeChunks then .ok (preludeChunks, stream)
        else readStreamPrelude preludeBytes preludeChunks stream

/-- The buffers that the bounds and the lines let accumulate. -/
def preludeBuffers (preludeBytes : Bytes) (preludeChunks : List Bytes) :
    List UpstreamItem → List Bytes
  | [] => []
  | .error _ :: _ => []
  | .ok chunk :: stream =>
    if chunk.isEmpty then preludeBuffers preludeBytes preludeChunks stream
    else
      let preludeBytes := preludeBytes ++ chunk
      let preludeChunks := preludeChunks ++ [chunk]
      preludeBytes ::
        if isPreludeEnd codec preludeBytes preludeChunks then []
        else preludeBuffers preludeBytes preludeChunks stream

end Inspect

/-! ## What is searched -/

section Readings

variable (codec : SerdeJson) {status : Nat} (headers : UpstreamHeaders)

def errorReading (payload : Bytes) : List Bytes :=
  match codec.fromSlice payload with
  | none => []
  | some value =>
    if isStreamErrorPayload value then [normalizeStreamErrorPayload codec value] else []

/-- The texts of a buffer in which an error is looked for. -/
def preludeReadings (chunk : Bytes) : List Bytes :=
  errorReading codec chunk ++
    match Bytes.fromUtf8 chunk with
    | none => []
    | some text =>
      (dataPayloads text).flatMap (fun payload => errorReading codec payload ++ [payload]) ++
        [chunk]

/-- No text that is searched has the code or the words of an error. -/
def HarmlessPrelude (chunk : Bytes) : Prop :=
  ∀ reading ∈ preludeReadings codec chunk,
    Harmless (extractUpstreamErrorDetails codec reading)

theorem parseJsonErrorPayload_eq_none_iff (h : isSuccess status = true) (payload : Bytes) :
    parseJsonErrorPayload codec status headers payload = none ↔
      ∀ reading ∈ errorReading codec payload,
        Harmless (extractUpstreamErrorDetails codec reading) := by
  rw [parseJsonErrorPayload, errorReading]
  cases codec.fromSlice payload with
  | none => simp
  | some value =>
      by_cases herror : isStreamErrorPayload value = true
      · simp [herror, buildUpstreamErrorContext_eq_none_iff codec h]
      · simp [herror]

theorem parsePayload_eq_none_iff (h : isSuccess status = true) (payload : Bytes) :
    parsePayload codec status headers payload = none ↔
      ∀ reading ∈ errorReading codec payload ++ [payload],
        Harmless (extractUpstreamErrorDetails codec reading) := by
  rw [parsePayload, Option.or_eq_none_iff, parseJsonErrorPayload_eq_none_iff codec headers h,
    buildUpstreamErrorContext_eq_none_iff codec h, List.forall_mem_append,
    List.forall_mem_singleton]

theorem parseStreamPreludeErrorContext_eq_none_iff (h : isSuccess status = true)
    (chunk : Bytes) :
    parseStreamPreludeErrorContext codec status headers chunk = none ↔
      HarmlessPrelude codec chunk := by
  have hjson := parseJsonErrorPayload_eq_none_iff codec headers h chunk
  rw [HarmlessPrelude, preludeReadings, List.forall_mem_append, ← hjson,
    parseStreamPreludeErrorContext]
  cases parseJsonErrorPayload codec status headers chunk with
  | some context => simp
  | none =>
      cases Bytes.fromUtf8 chunk with
      | none => simp
      | some text =>
          have hpayloads : (dataPayloads text).findSome? (parsePayload codec status headers) =
              none ↔ ∀ reading ∈ (dataPayloads text).flatMap
                (fun payload => errorReading codec payload ++ [payload]),
                Harmless (extractUpstreamErrorDetails codec reading) := by
            rw [List.findSome?_eq_none_iff]
            simp only [parsePayload_eq_none_iff codec headers h, List.mem_flatMap]
            constructor
            · rintro hall reading ⟨payload, hpayload, hreading⟩
              exact hall payload hpayload reading hreading
            · exact fun hall payload hpayload reading hreading =>
                hall reading ⟨payload, hpayload, hreading⟩
          simp only [true_and, List.forall_mem_append, List.forall_mem_singleton,
            Option.or_eq_none_iff]
          rw [hpayloads, buildUpstreamErrorContext_eq_none_iff codec h]

/-! ## Whole streams -/

/-- The stream is not given up for an error that was found in it. -/
theorem readStreamPrelude_ne_error_iff (preludeBytes : Bytes) (preludeChunks : List Bytes)
    (stream : List UpstreamItem) :
    (∀ context, readStreamPrelude codec status headers preludeBytes preludeChunks stream ≠
        .error (.upstreamErrorResponse context)) ↔
      ∀ buffer ∈ preludeBuffers codec preludeBytes preludeChunks stream,
        parseStreamPreludeErrorContext codec status headers buffer = none := by
  induction stream generalizing preludeBytes preludeChunks with
  | nil => simp [readStreamPrelude, preludeBuffers]
  | cons item stream ih =>
      cases item with
      | error err => simp [readStreamPrelude, preludeBuffers]
      | ok chunk =>
          rw [readStreamPrelude, preludeBuffers]
          by_cases hchunk : chunk.isEmpty = true
          · rw [if_pos hchunk, if_pos hchunk]
            exact ih preludeBytes preludeChunks
          · rw [if_neg hchunk, if_neg hchunk]
            simp only [List.forall_mem_cons]
            cases hparse : parseStreamPreludeErrorContext codec status headers
                (preludeBytes ++ chunk) with
            | some context => simp
            | none =>
                simp only [true_and]
                by_cases hend : isPreludeEnd codec (preludeBytes ++ chunk)
                    (preludeChunks ++ [chunk]) = true
                · simp [hend]
                · simp only [hend, Bool.false_eq_true, if_false]
                  exact ih _ _

/-- Successful streams are forwarded if and only if no buffer has the code or the words of
an error in what is searched. -/
theorem prelude_forwarded_iff (h : isSuccess status = true) (stream : List UpstreamItem) :
    (∀ buffer ∈ preludeBuffers codec [] [] stream,
        parseStreamPreludeErrorContext codec status headers buffer = none) ∧
      (∀ context, readStreamPrelude codec status headers [] [] stream ≠
        .error (.upstreamErrorResponse context)) ↔
    ∀ buffer ∈ preludeBuffers codec [] [] stream, HarmlessPrelude codec buffer := by
  rw [readStreamPrelude_ne_error_iff, and_self_iff]
  simp only [parseStreamPreludeErrorContext_eq_none_iff codec headers h]

end Readings

instance (codec : SerdeJson) : DecidablePred (HarmlessPrelude codec) :=
  fun _ => inferInstanceAs (Decidable (∀ reading ∈ preludeReadings _ _, _))

def createdCodec : SerdeJson :=
  .ofTable
    [("\x7b\"type\":\"response.created\"\x7d", .ofFields [("type", .str "response.created")])]

def createdEvent : Bytes := Bytes.ofAscii "data: \x7b\"type\":\"response.created\"\x7d\n\n"

theorem createdStream_forwarded :
    (∀ buffer ∈ preludeBuffers createdCodec [] [] [.ok createdEvent],
        parseStreamPreludeErrorContext createdCodec 200 ⟨none, none⟩ buffer = none) ∧
      (∀ context, readStreamPrelude createdCodec 200 ⟨none, none⟩ [] [] [.ok createdEvent] ≠
        .error (.upstreamErrorResponse context)) :=
  (prelude_forwarded_iff createdCodec ⟨none, none⟩ rfl [.ok createdEvent]).2 (by decide +kernel)

/-- No event of the stream is an error, complete or cut off. -/
def NoErrorEvent (codec : SerdeJson) (stream : List UpstreamItem) : Prop :=
  ∀ buffer ∈ preludeBuffers codec [] [] stream, ∀ text, Bytes.fromUtf8 buffer = some text →
    ∀ payload ∈ dataPayloads text, ∀ value, codec.fromSlice payload = some value →
      isStreamErrorPayload value = false

/-! ## A response that speaks of a quota -/

def quotaPayload : String :=
  "\x7b\"type\":\"response.created\",\"response\":\x7b\"instructions\":" ++
    "\"Mind the quota.\"\x7d\x7d"

def quotaValue : Json :=
  .ofFields [("type", .str "response.created"),
    ("response", .ofFields [("instructions", .str "Mind the quota.")])]

def quotaCodec : SerdeJson := .ofTable [(quotaPayload, quotaValue)]

def quotaEvent : Bytes := Bytes.ofAscii ("data: " ++ (quotaPayload ++ "\n\n"))

theorem quotaEvent_utf8 : (Bytes.fromUtf8 quotaEvent).isSome = true := by decide +kernel

theorem quotaEvent_details :
    (extractUpstreamErrorDetails quotaCodec quotaEvent).2 = extractUpstreamRawError quotaEvent := by
  have hne : Bytes.ofAscii quotaPayload ≠ quotaEvent := by
    unfold quotaPayload quotaEvent
    exact Bytes.ofAscii_append_ne 1 (by decide) (by decide) (by decide) _ _
  have hnone : quotaCodec.fromSlice quotaEvent = none := by
    rw [quotaCodec, SerdeJson.ofTable_cons_of_ne hne]
    simp [SerdeJson.ofTable]
  rw [extractUpstreamErrorDetails, hnone]

theorem quotaEvent_mentions :
    Text.contains (Text.toAsciiLowercase ((extractUpstreamRawError quotaEvent).getD "")) "quota" =
      true := by
  simp only [getD_extractUpstreamRawError, Text.contains, Text.toList_toAsciiLowercase,
    Text.toList_trim, Bytes.fromUtf8Lossy, String.toList_ofList]
  decide +kernel

theorem quotaEvent_not_harmless : ¬ HarmlessPrelude quotaCodec quotaEvent := by
  intro h
  obtain ⟨text, htext⟩ := Option.isSome_iff_exists.1 quotaEvent_utf8
  have hmem : quotaEvent ∈ preludeReadings quotaCodec quotaEvent := by
    simp [preludeReadings, htext]
  have hphrase := (h quotaEvent hmem).2 "quota" (by decide)
  rw [quotaEvent_details, quotaEvent_mentions] at hphrase
  cases hphrase

theorem quotaStream_buffers : preludeBuffers quotaCodec [] [] [.ok quotaEvent] = [quotaEvent] := by
  have hne : quotaEvent.isEmpty = false := by decide +kernel
  simp [preludeBuffers, hne]

theorem quotaStream_noErrorEvent : NoErrorEvent quotaCodec [.ok quotaEvent] := by
  intro buffer _ text _ payload _ value hvalue
  have heq : value = quotaValue := by
    simp only [quotaCodec, SerdeJson.ofTable, List.find?_cons, List.find?_nil] at hvalue
    split at hvalue <;> simp_all
  rw [heq]
  decide +kernel

/-- The instructions of the response are searched like a message of an error. -/
theorem prelude_not_forwarded :
    ¬ ∀ (codec : SerdeJson) (status : Nat) (headers : UpstreamHeaders)
      (stream : List UpstreamItem), isSuccess status = true → NoErrorEvent codec stream →
      ∀ buffer ∈ preludeBuffers codec [] [] stream,
        parseStreamPreludeErrorContext codec status headers buffer = none := by
  intro h
  have hbuffer := h quotaCodec 200 ⟨none, none⟩ [.ok quotaEvent] rfl quotaStream_noErrorEvent
    quotaEvent (by rw [quotaStream_buffers]; exact List.mem_singleton_self _)
  rw [parseStreamPreludeErrorContext_eq_none_iff _ _ rfl] at hbuffer
  exact quotaEvent_not_harmless hbuffer

end CodexPool
