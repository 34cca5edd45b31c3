import CodexPool.Proxy.StreamTask

/-!
# The values of a stream

What is observed of a stream depends on the JSON values of its lines alone. The events of a
response carry it as it stands, and are searched like the response itself.
-/

namespace CodexPool

open Saturating

/-! ## The values of a stream -/

section Stream

variable (codec : SerdeJson)

/-- The value of a line of a stream, and whether the line is one of data. -/
def lineValue (line : Bytes) : Option (Json × Bool) :=
  if line.isEmpty then none
  else
    let (payload, fromDataLine) := match Bytes.stripPrefix (Bytes.ofAscii "data:") line with
      | some rawPayload => (Bytes.trimAscii rawPayload, true)
      | none => (Bytes.trimAscii line, false)
    if payload.isEmpty || payload = Bytes.ofAscii "[DONE]" then none
    else (codec.fromSlice payload).map (·, fromDataLine)

def streamValues (bytes : Bytes) : List (Json × Bool) :=
  let (lines, lastLine) := LineFeed.split 0x0A [] bytes
  lines.filterMap (fun line =>
      lineValue codec (if line.getLast? = some 0x0D then line.dropLast else line)) ++
    if lastLine.isEmpty then [] else (lineValue codec (Bytes.trimAscii lastLine)).toList

/-- What is read off the values of a stream. -/
def StreamUsage.observeValues (seen : StreamUsage) (values : List (Json × Bool)) : StreamUsage :=
  values.foldl (fun seen value => seen.observeValue value.1 value.2) seen

theorem observeLine_eq (seen : StreamUsage) (line : Bytes) :
    seen.observeLine codec line = seen.observeValues (lineValue codec line).toList := by
  rw [StreamUsage.observeLine, lineValue]
  split_ifs
  · rfl
  · cases Bytes.stripPrefix (Bytes.ofAscii "data:") line with
    | none =>
        simp only
        split_ifs
        · rfl
        · cases codec.fromSlice _ <;> rfl
    | some rawPayload =>
        simp only
        split_ifs
        · rfl
        · cases codec.fromSlice _ <;> rfl

theorem foldl_observeRawLine (seen : StreamUsage) (lines : List Bytes) :
    lines.foldl (StreamUsage.observeRawLine codec) seen =
      seen.observeValues (lines.filterMap fun line =>
        lineValue codec (if line.getLast? = some 0x0D then line.dropLast else line)) := by
  induction lines generalizing seen with
  | nil => rfl
  | cons line lines ih =>
      rw [List.foldl_cons, ih, StreamUsage.observeRawLine, observeLine_eq, List.filterMap_cons]
      cases lineValue codec _ <;> rfl

/-- What is observed in the end. -/
def StreamUsage.observation (seen : StreamUsage) : StreamUsageObservation :=
  SseUsageTracker.finishUsage codec ⟨[], seen⟩

theorem streamUsageObservation_eq (bytes : Bytes) :
    streamUsageObservation codec bytes =
      (StreamUsage.empty.observeValues (streamValues codec bytes)).observation codec := by
  have hfinish : ∀ (lastLine : Bytes) (seen : StreamUsage),
      SseUsageTracker.finishUsage codec ⟨lastLine, seen⟩ =
        (seen.observeValues (if lastLine.isEmpty then []
          else (lineValue codec (Bytes.trimAscii lastLine)).toList)).observation codec := by
    intro lastLine seen
    simp only [StreamUsage.observation, SseUsageTracker.finishUsage, observeLine_eq]
    cases lastLine <;> rfl
  rw [streamUsageObservation, streamValues, LineFeed.feed_eq_split, foldl_observeRawLine]
  simp only [hfinish, StreamUsage.observeValues, List.foldl_append]

/-- A payload that a line of data carries as it is. -/
def PlainPayload (payload : Bytes) : Prop :=
  payload ≠ [] ∧ 0x0A ∉ payload ∧ Bytes.trimAscii payload = payload ∧
    payload ≠ Bytes.ofAscii "[DONE]" ∧ payload.getLast? ≠ some 0x0D

instance (payload : Bytes) : Decidable (PlainPayload payload) :=
  inferInstanceAs (Decidable (_ ∧ _))

/-- The frame of an event. -/
def dataFrame (payload : Bytes) : Bytes :=
  Bytes.ofAscii "data: " ++ (payload ++ [0x0A, 0x0A])

theorem lineValue_data {payload : Bytes} (h : PlainPayload payload) :
    lineValue codec (Bytes.ofAscii "data: " ++ payload) =
      (codec.fromSlice payload).map (·, true) := by
  obtain ⟨hne, -, htrim, hdone, -⟩ := h
  have hdata : Bytes.ofAscii "data: " = Bytes.ofAscii "data:" ++ [0x20] := by decide
  have hstrip : Bytes.stripPrefix (Bytes.ofAscii "data:")
      (Bytes.ofAscii "data: " ++ payload) = some (0x20 :: payload) := by
    rw [hdata, List.append_assoc, Bytes.stripPrefix]
    simp
  have hline : (Bytes.ofAscii "data: " ++ payload).isEmpty = false := by
    rw [hdata]
    simp
  have hspace : Bytes.trimAscii (0x20 :: payload) = payload := htrim
  have hpayload : payload.isEmpty = false := by simpa using hne
  rw [lineValue, hline, hstrip, if_neg Bool.false_ne_true]
  simp only [hspace, hpayload, hdone, decide_false, Bool.or_self, Bool.false_eq_true, if_false]

theorem streamValues_dataFrame {payload : Bytes} (h : PlainPayload payload) :
    streamValues codec (dataFrame payload) =
      ((codec.fromSlice payload).map (·, true)).toList := by
  have hdata : 0x0A ∉ Bytes.ofAscii "data: " ++ payload := by
    rw [List.mem_append, not_or]
    exact ⟨by decide, h.2.1⟩
  have hsplit : LineFeed.split 0x0A [] (dataFrame payload) =
      ([Bytes.ofAscii "data: " ++ payload, []], []) := by
    rw [dataFrame, ← List.append_assoc, LineFeed.split_of_not_mem hdata]
    rfl
  have hlast : (Bytes.ofAscii "data: " ++ payload).getLast? ≠ some 0x0D := by
    rw [List.getLast?_append_of_ne_nil _ h.1]
    exact h.2.2.2.2
  have hblank : lineValue codec [] = none := rfl
  simp only [streamValues, hsplit, List.filterMap_cons, hlast, if_false, lineValue_data codec h,
    List.getLast?_nil, reduceCtorEq, hblank, List.filterMap_nil, List.isEmpty_nil, if_true,
    List.append_nil]
  cases codec.fromSlice payload <;> rfl

end Stream

/-! ## Events of a response -/

def responseEvent (eventType : String) (sequenceNumber : Int) (response : Json) : Json :=
  .obj [("response", response), ("sequence_number", .int sequenceNumber),
    ("type", .str eventType)]

/-- The service tier that a response names itself. -/
def ownServiceTier (response : Json) : Option String :=
  extractServiceTierFromField (response.get "service_tier")

theorem extractUsageTokens_responseEvent (eventType : String) (n : Int) (response : Json) :
    extractUsageTokensFromValue (responseEvent eventType n response) =
      extractUsageTokensFromValue response := by
  simp [responseEvent, extractUsageTokensFromValue, usageTokensFromUsageObject, Json.get,
    Json.lookupField, extractUsageTokensFromFields, Json.int]

theorem extractServiceTier_responseEvent (eventType : String) (n : Int) (response : Json) :
    extractServiceTierFromValue (responseEvent eventType n response) =
      ownServiceTier response := by
  simp [responseEvent, extractServiceTierFromValue, Json.get, Json.lookupField,
    extractServiceTierFromField, ownServiceTier]

theorem getStr_type_responseEvent (eventType : String) (n : Int) (response : Json) :
    (responseEvent eventType n response).getStr "type" = some eventType := by
  simp [responseEvent, Json.getStr, Json.get, Json.lookupField, Json.asStr]

namespace StreamUsage

theorem observeText_responseEvent (seen : StreamUsage) {eventType : String} (n : Int)
    (response : Json) (hdelta : eventType ≠ "response.output_text.delta")
    (hdone : eventType ≠ "response.output_text.done") :
    seen.observeText (responseEvent eventType n response) = seen := by
  simp [observeText, getStr_type_responseEvent, hdelta, hdone]

theorem observeValue_responseEvent (seen : StreamUsage) {eventType : String} (n : Int)
    (response : Json) (fromDataLine : Bool)
    (hdelta : eventType ≠ "response.output_text.delta")
    (hdone : eventType ≠ "response.output_text.done") :
    let seen' := seen.observeValue (responseEvent eventType n response) fromDataLine
    seen'.usage = (extractUsageTokensFromValue response).or seen.usage ∧
      seen'.serviceTier = seen.serviceTier.or (ownServiceTier response) ∧
      seen'.outputTextChars = seen.outputTextChars := by
  simp only [observeValue, extractUsageTokens_responseEvent, extractServiceTier_responseEvent,
    observeText_responseEvent _ n response hdelta hdone]
  cases extractUsageTokensFromValue response <;> simp

end StreamUsage

end CodexPool
