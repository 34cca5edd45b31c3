import CodexPool.Proxy.StreamValues
import Mathlib.Data.List.Forall2

/-!
# Usage that is echoed

Usage is searched in the whole of an event, and an event repeats much of what the client has
sent. What is found is the usage of the response itself, unless the response has none that
counts: then any object in it will do, one of the client's too.
-/

namespace CodexPool

open Saturating

/-! ## Where usage is found -/

inductive PathStep where
  | field (k : String)
  | item
deriving DecidableEq

def Counts (value : Json) : Prop := (usageTokensFromUsageObject value).isSome = true

mutual

/-- The search for usage, with the place of the object that it is found in. -/
def findUsage : Json → Option (List PathStep × UsageTokens)
  | .obj fields =>
    ((usageTokensFromUsageObject (.obj fields)).map ([], ·)).or (findUsageInFields fields)
  | .arr items => findUsageInItems items
  | .null | .bool _ | .num _ | .str _ => none

def findUsageInFields : List (String × Json) → Option (List PathStep × UsageTokens)
  | [] => none
  | (k, value) :: fields =>
    ((findUsage value).map fun found => (.field k :: found.1, found.2)).or
      (findUsageInFields fields)

def findUsageInItems : List Json → Option (List PathStep × UsageTokens)
  | [] => none
  | value :: items =>
    ((findUsage value).map fun found => (.item :: found.1, found.2)).or (findUsageInItems items)

end

mutual

theorem extractUsageTokens_eq_findUsage :
    ∀ value : Json, extractUsageTokensFromValue value = (findUsage value).map Prod.snd
  | .obj fields => by
      rw [extractUsageTokensFromValue, findUsage, extractUsageTokensFromFields_eq fields]
      cases usageTokensFromUsageObject (.obj fields) <;> simp
  | .arr items => by
      rw [extractUsageTokensFromValue, findUsage, extractUsageTokensFromItems_eq items]
  | .null => rfl
  | .bool _ => rfl
  | .num _ => rfl
  | .str _ => rfl

theorem extractUsageTokensFromFields_eq :
    ∀ fields : List (String × Json),
      extractUsageTokensFromFields fields = (findUsageInFields fields).map Prod.snd
  | [] => rfl
  | (k, value) :: fields => by
      rw [extractUsageTokensFromFields, findUsageInFields, extractUsageTokens_eq_findUsage value,
        extractUsageTokensFromFields_eq fields]
      cases findUsage value <;> simp

theorem extractUsageTokensFromItems_eq :
    ∀ items : List Json,
      extractUsageTokensFromItems items = (findUsageInItems items).map Prod.snd
  | [] => rfl
  | value :: items => by
      rw [extractUsageTokensFromItems, findUsageInItems, extractUsageTokens_eq_findUsage value,
        extractUsageTokensFromItems_eq items]
      cases findUsage value <;> simp

end

/-- Some object in the value, at any depth, has usage that counts. -/
inductive HasUsage : Json → Prop
  | here {fields : List (String × Json)} : Counts (.obj fields) → HasUsage (.obj fields)
  | field {fields : List (String × Json)} {k : String} {value : Json} :
      (k, value) ∈ fields → HasUsage value → HasUsage (.obj fields)
  | item {items : List Json} {value : Json} :
      value ∈ items → HasUsage value → HasUsage (.arr items)

theorem findUsageInFields_eq_none_iff (fields : List (String × Json)) :
    findUsageInFields fields = none ↔ ∀ f ∈ fields, findUsage f.2 = none := by
  induction fields with
  | nil => simp [findUsageInFields]
  | cons f fields ih => simp [findUsageInFields, ih]

theorem findUsageInItems_eq_none_iff (items : List Json) :
    findUsageInItems items = none ↔ ∀ value ∈ items, findUsage value = none := by
  induction items with
  | nil => simp [findUsageInItems]
  | cons value items ih => simp [findUsageInItems, ih]

theorem HasUsage.findUsage_ne_none {value : Json} (h : HasUsage value) :
    findUsage value ≠ none := by
  induction h with
  | here hcounts =>
      intro hnone
      rw [findUsage, Option.or_eq_none_iff, Option.map_eq_none_iff] at hnone
      rw [Counts, hnone.1] at hcounts
      cases hcounts
  | field hmem _ ih =>
      intro hnone
      rw [findUsage, Option.or_eq_none_iff, findUsageInFields_eq_none_iff] at hnone
      exact ih (hnone.2 _ hmem)
  | item hmem _ ih =>
      intro hnone
      rw [findUsage, findUsageInItems_eq_none_iff] at hnone
      exact ih (hnone _ hmem)

mutual

theorem hasUsage_of_findUsage : ∀ value : Json, findUsage value ≠ none → HasUsage value
  | .obj fields => by
      intro h
      rw [findUsage] at h
      cases hcounts : usageTokensFromUsageObject (.obj fields) with
      | some usage => exact .here (by rw [Counts, hcounts]; rfl)
      | none =>
          rw [hcounts, Option.map_none, Option.none_or] at h
          obtain ⟨f, hf, hfield⟩ := hasUsage_of_findUsageInFields fields h
          exact .field hf hfield
  | .arr items => by
      intro h
      rw [findUsage] at h
      obtain ⟨value, hvalue, hitem⟩ := hasUsage_of_findUsageInItems items h
      exact .item hvalue hitem
  | .null | .bool _ | .num _ | .str _ => fun h => absurd rfl h

theorem hasUsage_of_findUsageInFields : ∀ fields : List (String × Json),
    findUsageInFields fields ≠ none → ∃ f ∈ fields, HasUsage f.2
  | [] => fun h => absurd rfl h
  | (k, value) :: fields => by
      intro h
      by_cases hvalue : findUsage value = none
      · rw [findUsageInFields, hvalue, Option.map_none, Option.none_or] at h
        obtain ⟨f, hf, hfield⟩ := hasUsage_of_findUsageInFields fields h
        exact ⟨f, List.mem_cons_of_mem _ hf, hfield⟩
      · exact ⟨(k, value), List.mem_cons_self, hasUsage_of_findUsage value hvalue⟩

theorem hasUsage_of_findUsageInItems : ∀ items : List Json,
    findUsageInItems items ≠ none → ∃ value ∈ items, HasUsage value
  | [] => fun h => absurd rfl h
  | value :: items => by
      intro h
      by_cases hvalue : findUsage value = none
      · rw [findUsageInItems, hvalue, Option.map_none, Option.none_or] at h
        obtain ⟨value', hvalue', hitem⟩ := hasUsage_of_findUsageInItems items h
        exact ⟨value', List.mem_cons_of_mem _ hvalue', hitem⟩
      · exact ⟨value, List.mem_cons_self, hasUsage_of_findUsage value hvalue⟩

end

theorem findUsage_eq_none_iff (value : Json) : findUsage value = none ↔ ¬ HasUsage value := by
  constructor
  · exact fun hnone h => h.findUsage_ne_none hnone
  · intro h
    by_contra hsome
    exact h (hasUsage_of_findUsage value hsome)

/-! ## Usage of the value itself -/

def FoundInItself (value : Json) : Prop :=
  ∀ path usage, findUsage value = some (path, usage) →
    path = [] ∨ path = [.field "response"]

/-- The value or its response has usage that counts, which nothing in the value comes before;
or nothing in the value has. -/
def HasOwnUsageOnly (value : Json) : Prop :=
  Counts value ∨ ¬ HasUsage value ∨
    ∃ before response after, value = .obj (before ++ ("response", response) :: after) ∧
      (∀ f ∈ before, ¬ HasUsage f.2) ∧ Counts response

theorem findUsageInFields_eq_some {fields : List (String × Json)} {path : List PathStep}
    {usage : UsageTokens} (h : findUsageInFields fields = some (path, usage)) :
    ∃ before k value after path', fields = before ++ (k, value) :: after ∧
      (∀ f ∈ before, findUsage f.2 = none) ∧ findUsage value = some (path', usage) ∧
      path = .field k :: path' := by
  induction fields with
  | nil => cases h
  | cons f fields ih =>
      obtain ⟨k, value⟩ := f
      rw [findUsageInFields] at h
      cases hvalue : findUsage value with
      | some found =>
          rw [hvalue, Option.map_some, Option.some_or, Option.some.injEq, Prod.mk.injEq] at h
          obtain ⟨rfl, rfl⟩ := h
          exact ⟨[], k, value, fields, found.1, rfl, by simp, hvalue, rfl⟩
      | none =>
          rw [hvalue, Option.map_none, Option.none_or] at h
          obtain ⟨before, k', value', after, path', rfl, hbefore, hfound, hpath⟩ := ih h
          refine ⟨(k, value) :: before, k', value', after, path', rfl, ?_, hfound, hpath⟩
          exact List.forall_mem_cons.2 ⟨hvalue, hbefore⟩

theorem findUsageInItems_eq_some {items : List Json} {path : List PathStep}
    {usage : UsageTokens} (h : findUsageInItems items = some (path, usage)) :
    ∃ path', path = .item :: path' := by
  induction items with
  | nil => cases h
  | cons value items ih =>
      rw [findUsageInItems] at h
      cases hvalue : findUsage value with
      | some found =>
          rw [hvalue, Option.map_some, Option.some_or, Option.some.injEq, Prod.mk.injEq] at h
          exact ⟨found.1, h.1.symm⟩
      | none =>
          rw [hvalue, Option.map_none, Option.none_or] at h
          exact ih h

theorem findUsageInFields_append {before : List (String × Json)}
    (h : ∀ f ∈ before, findUsage f.2 = none) (fields : List (String × Json)) :
    findUsageInFields (before ++ fields) = findUsageInFields fields := by
  induction before with
  | nil => rfl
  | cons f before ih =>
      rw [List.forall_mem_cons] at h
      rw [List.cons_append, findUsageInFields, h.1, Option.map_none, Option.none_or, ih h.2]

theorem findUsage_of_counts {value : Json} (h : Counts value) :
    ∃ usage, usageTokensFromUsageObject value = some usage ∧
      findUsage value = some ([], usage) := by
  obtain ⟨usage, husage⟩ := Option.isSome_iff_exists.1 h
  cases value with
  | obj fields => exact ⟨usage, husage, by rw [findUsage, husage]; rfl⟩
  | _ => cases husage

theorem counts_of_findUsage {value : Json} {usage : UsageTokens}
    (h : findUsage value = some ([], usage)) : Counts value := by
  cases value with
  | obj fields =>
      rw [findUsage] at h
      cases hcounts : usageTokensFromUsageObject (.obj fields) with
      | some usage' => rw [Counts, hcounts]; rfl
      | none =>
          rw [hcounts, Option.map_none, Option.none_or] at h
          obtain ⟨_, _, _, _, _, -, -, -, hpath⟩ := findUsageInFields_eq_some h
          cases hpath
  | arr items =>
      obtain ⟨_, hpath⟩ := findUsageInItems_eq_some h
      cases hpath
  | _ => cases h

theorem foundInItself_iff (value : Json) : FoundInItself value ↔ HasOwnUsageOnly value := by
  constructor
  · intro h
    by_cases hcounts : Counts value
    · exact .inl hcounts
    · cases hfound : findUsage value with
      | none => exact .inr (.inl ((findUsage_eq_none_iff value).1 hfound))
      | some found =>
          obtain ⟨path, usage⟩ := found
          obtain rfl | rfl := h path usage hfound
          · exact absurd (counts_of_findUsage hfound) hcounts
          · cases value with
            | obj fields =>
                rw [findUsage, Option.not_isSome_iff_eq_none.1 hcounts, Option.map_none,
                  Option.none_or] at hfound
                obtain ⟨before, k, response, after, path', rfl, hbefore, hresponse, hpath⟩ :=
                  findUsageInFields_eq_some hfound
                cases hpath
                refine .inr (.inr ⟨before, response, after, rfl, fun f hf => ?_, ?_⟩)
                · exact (findUsage_eq_none_iff f.2).1 (hbefore f hf)
                · exact counts_of_findUsage hresponse
            | arr items =>
                obtain ⟨_, hpath⟩ := findUsageInItems_eq_some hfound
                cases hpath
            | _ => cases hfound
  · rintro (hcounts | hnone | ⟨before, response, after, rfl, hbefore, hresponse⟩) path usage hfound
    · obtain ⟨usage', -, hitself⟩ := findUsage_of_counts hcounts
      rw [hitself] at hfound
      cases hfound
      exact .inl rfl
    · rw [(findUsage_eq_none_iff value).2 hnone] at hfound
      cases hfound
    · obtain ⟨usage', -, hitself⟩ := findUsage_of_counts hresponse
      rw [findUsage, findUsageInFields_append fun f hf =>
        (findUsage_eq_none_iff f.2).2 (hbefore f hf), findUsageInFields, hitself] at hfound
      cases hcounts : usageTokensFromUsageObject (.obj (before ++ ("response", response) :: after))
        with
      | some usage'' =>
          rw [hcounts] at hfound
          cases hfound
          exact .inl rfl
      | none =>
          rw [hcounts] at hfound
          cases hfound
          exact .inr rfl

/-! ## What the client sends and the events repeat -/

/-- Two texts of a response that differ in the schema of their format only. -/
def TextAlike (text text' : Json) : Prop :=
  (∀ k, k ≠ "format" → text.get k = text'.get k) ∧
    Option.Rel (fun format format' : Json => ∀ k, k ≠ "schema" → format.get k = format'.get k)
      (text.get "format") (text'.get "format")

/-- Two responses that differ in what they repeat of the client's request only. -/
structure EchoAlike (response response' : Json) : Prop where
  isObject : response.isObject = true
  isObject' : response'.isObject = true
  get_eq : ∀ k, k ∉ ["tools", "metadata", "instructions", "text"] →
    response.get k = response'.get k
  text : Option.Rel TextAlike (response.get "text") (response'.get "text")

def echoingTypes : List String :=
  ["response.created", "response.in_progress", "response.completed"]

/-- Two events that are equal, or events of a response that differ in what it repeats. -/
def EventAlike (value value' : Json) : Prop :=
  value = value' ∨ ∃ eventType ∈ echoingTypes, ∃ n response response',
    value = responseEvent eventType n response ∧ value' = responseEvent eventType n response' ∧
      EchoAlike response response'

theorem usageTokensFromUsageObject_congr {value value' : Json}
    (h : value.get "usage" = value'.get "usage") :
    usageTokensFromUsageObject value = usageTokensFromUsageObject value' := by
  rw [usageTokensFromUsageObject, usageTokensFromUsageObject, h]

/-- The usage of an event of a response is that of the response itself. -/
theorem extractUsageTokens_of_foundInItself {eventType : String} {n : Int} {response : Json}
    (hobject : response.isObject = true)
    (h : FoundInItself (responseEvent eventType n response)) :
    extractUsageTokensFromValue (responseEvent eventType n response) =
      usageTokensFromUsageObject response := by
  rw [extractUsageTokens_responseEvent, extractUsageTokens_eq_findUsage]
  cases hfound : findUsage response with
  | none =>
      cases response with
      | obj fields =>
          rw [findUsage, Option.or_eq_none_iff, Option.map_eq_none_iff] at hfound
          exact hfound.1.symm
      | _ => cases hobject
  | some found =>
      obtain ⟨path, usage⟩ := found
      have hevent : findUsage (responseEvent eventType n response) =
          some (.field "response" :: path, usage) := by
        simp [responseEvent, findUsage, usageTokensFromUsageObject, Json.get, Json.lookupField,
          findUsageInFields, hfound]
      obtain hpath | hpath := h _ _ hevent
      · cases hpath
      · obtain rfl : path = [] := by simpa using hpath
        obtain ⟨usage', husage, hitself⟩ := findUsage_of_counts (counts_of_findUsage hfound)
        rw [hfound] at hitself
        cases hitself
        exact husage.symm

theorem EventAlike.extractUsageTokens_eq {value value' : Json} (h : EventAlike value value')
    (hvalue : FoundInItself value) (hvalue' : FoundInItself value') :
    extractUsageTokensFromValue value = extractUsageTokensFromValue value' := by
  obtain rfl | ⟨eventType, -, n, response, response', rfl, rfl, halike⟩ := h
  · rfl
  · rw [extractUsageTokens_of_foundInItself halike.isObject hvalue,
      extractUsageTokens_of_foundInItself halike.isObject' hvalue']
    exact usageTokensFromUsageObject_congr (halike.get_eq "usage" (by decide))

/-! ## Streams -/

theorem StreamUsage.usage_observeValue (seen : StreamUsage) (value : Json) (fromDataLine : Bool) :
    (seen.observeValue value fromDataLine).usage =
      (extractUsageTokensFromValue value).or seen.usage := by
  have htext : ∀ (seen : StreamUsage), (seen.observeText value).usage = seen.usage := by
    intro seen
    rw [observeText]
    split_ifs
    · split <;> rfl
    · split <;> rfl
    · rfl
  simp only [observeValue, htext]
  cases extractUsageTokensFromValue value <;> rfl

/-- Streams whose events have the same usage are observed with the same usage. -/
theorem StreamUsage.usage_observeValues_congr {values values' : List (Json × Bool)}
    (h : List.Forall₂ (fun value value' =>
      extractUsageTokensFromValue value.1 = extractUsageTokensFromValue value'.1) values values')
    {seen seen' : StreamUsage} (hseen : seen.usage = seen'.usage) :
    (seen.observeValues values).usage = (seen'.observeValues values').usage := by
  induction h generalizing seen seen' with
  | nil => exact hseen
  | cons hvalue _ ih =>
      refine ih ?_
      rw [usage_observeValue, usage_observeValue, hvalue, hseen]

section Tracker

variable (codec : SerdeJson)

def observedUsage (chunks : List Bytes) : Option UsageTokens :=
  ((chunks.foldl (SseUsageTracker.observeChunk codec) .empty).finishUsage codec).usage

theorem observedUsage_eq (chunks : List Bytes) :
    observedUsage codec chunks =
      (StreamUsage.empty.observeValues (streamValues codec chunks.flatten)).usage := by
  rw [observedUsage, finishUsage_observeChunks, streamUsageObservation_eq]
  rfl

/-- The client cannot steer the usage: two streams that differ in what they repeat of its
request are observed with the same usage, which is that of a response itself. -/
def Unsteered (chunks chunks' : List Bytes) : Prop :=
  observedUsage codec chunks = observedUsage codec chunks' ∧
    (∀ value ∈ streamValues codec chunks.flatten, FoundInItself value.1) ∧
    ∀ value ∈ streamValues codec chunks'.flatten, FoundInItself value.1

theorem unsteered_iff {chunks chunks' : List Bytes}
    (h : List.Forall₂ (fun value value' => EventAlike value.1 value'.1)
      (streamValues codec chunks.flatten) (streamValues codec chunks'.flatten)) :
    Unsteered codec chunks chunks' ↔
      (∀ value ∈ streamValues codec chunks.flatten, HasOwnUsageOnly value.1) ∧
        ∀ value ∈ streamValues codec chunks'.flatten, HasOwnUsageOnly value.1 := by
  simp only [← foundInItself_iff]
  constructor
  · exact fun hunsteered => hunsteered.2
  · rintro ⟨hvalues, hvalues'⟩
    refine ⟨?_, hvalues, hvalues'⟩
    rw [observedUsage_eq, observedUsage_eq]
    refine StreamUsage.usage_observeValues_congr ?_ rfl
    rw [List.forall₂_iff_get] at h ⊢
    refine ⟨h.1, fun i hi hi' => ?_⟩
    exact (h.2 i hi hi').extractUsageTokens_eq (hvalues _ (List.get_mem _ _))
      (hvalues' _ (List.get_mem _ _))

end Tracker

/-! ## Metadata with usage -/

def echoedUsage : Json := .obj [("usage", .obj [("input_tokens", .int 7)])]

def echoEvent (metadata : Json) : Json :=
  responseEvent "response.completed" 0 (.obj [("metadata", metadata)])

def plainText : String :=
  "\x7b\"response\":\x7b\"metadata\":\x7b\x7d\x7d,\"sequence_number\":0," ++
    "\"type\":\"response.completed\"\x7d"

def steeredText : String :=
  "\x7b\"response\":\x7b\"metadata\":\x7b\"usage\":\x7b\"input_tokens\":7\x7d\x7d\x7d," ++
    "\"sequence_number\":0,\"type\":\"response.completed\"\x7d"

def echoedNote : Json := .obj [("note", .str "hi")]

def notedText : String :=
  "\x7b\"response\":\x7b\"metadata\":\x7b\"note\":\"hi\"\x7d\x7d,\"sequence_number\":0," ++
    "\"type\":\"response.completed\"\x7d"

def echoCodec : SerdeJson :=
  .ofTable [(plainText, echoEvent (.obj [])), (steeredText, echoEvent echoedUsage),
    (notedText, echoEvent echoedNote)]

theorem echo_facts :
    PlainPayload (Bytes.ofAscii plainText) ∧ PlainPayload (Bytes.ofAscii steeredText) ∧
      PlainPayload (Bytes.ofAscii notedText) ∧
      Bytes.ofAscii plainText ≠ Bytes.ofAscii steeredText ∧
      Bytes.ofAscii plainText ≠ Bytes.ofAscii notedText ∧
      Bytes.ofAscii steeredText ≠ Bytes.ofAscii notedText := by
  decide +kernel

theorem streamValues_plainText :
    streamValues echoCodec [dataFrame (Bytes.ofAscii plainText)].flatten =
      [(echoEvent (.obj []), true)] := by
  rw [List.flatten_singleton, streamValues_dataFrame _ echo_facts.1, echoCodec,
    SerdeJson.ofTable_cons_self]
  rfl

theorem streamValues_steeredText :
    streamValues echoCodec [dataFrame (Bytes.ofAscii steeredText)].flatten =
      [(echoEvent echoedUsage, true)] := by
  obtain ⟨-, hsteered, -, hne, -⟩ := echo_facts
  rw [List.flatten_singleton, streamValues_dataFrame _ hsteered, echoCodec,
    SerdeJson.ofTable_cons_of_ne hne, SerdeJson.ofTable_cons_self]
  rfl

theorem streamValues_notedText :
    streamValues echoCodec [dataFrame (Bytes.ofAscii notedText)].flatten =
      [(echoEvent echoedNote, true)] := by
  obtain ⟨-, -, hnoted, -, hne, hne'⟩ := echo_facts
  rw [List.flatten_singleton, streamValues_dataFrame _ hnoted, echoCodec,
    SerdeJson.ofTable_cons_of_ne hne, SerdeJson.ofTable_cons_of_ne hne',
    SerdeJson.ofTable_cons_self]
  rfl

theorem echoAlike_metadata (metadata metadata' : Json) :
    EchoAlike (.obj [("metadata", metadata)]) (.obj [("metadata", metadata')]) where
  isObject := rfl
  isObject' := rfl
  get_eq k hk := by
    have hne : k ≠ "metadata" := by
      rintro rfl
      exact hk (by decide)
    simp [Json.get, Json.lookupField, hne]
  text := .none

theorem eventAlike_echoEvent (metadata metadata' : Json) :
    EventAlike (echoEvent metadata) (echoEvent metadata') :=
  .inr ⟨"response.completed", by decide, 0, _, _, rfl, rfl, echoAlike_metadata metadata metadata'⟩

/-- Two streams that repeat different metadata without usage. -/
theorem plainText_unsteered :
    Unsteered echoCodec [dataFrame (Bytes.ofAscii plainText)]
      [dataFrame (Bytes.ofAscii notedText)] := by
  have hown : HasOwnUsageOnly (echoEvent (.obj [])) :=
    .inr (.inl ((findUsage_eq_none_iff _).1 (by decide)))
  have hown' : HasOwnUsageOnly (echoEvent echoedNote) :=
    .inr (.inl ((findUsage_eq_none_iff _).1 (by decide)))
  refine (unsteered_iff echoCodec ?_).2 ⟨?_, ?_⟩
  · rw [streamValues_plainText, streamValues_notedText]
    exact .cons (eventAlike_echoEvent _ _) .nil
  · rw [streamValues_plainText]
    simpa using hown
  · rw [streamValues_notedText]
    simpa using hown'

/-- The usage in the metadata of the client is observed. -/
theorem steeredText_not_unsteered :
    ¬ ∀ (codec : SerdeJson) (chunks chunks' : List Bytes),
      List.Forall₂ (fun value value' : Json × Bool => EventAlike value.1 value'.1)
          (streamValues codec chunks.flatten) (streamValues codec chunks'.flatten) →
        Unsteered codec chunks chunks' := by
  intro h
  have husage := (h echoCodec [dataFrame (Bytes.ofAscii plainText)]
    [dataFrame (Bytes.ofAscii steeredText)] (by
      rw [streamValues_plainText, streamValues_steeredText]
      exact .cons (eventAlike_echoEvent _ _) .nil)).1
  rw [observedUsage_eq, observedUsage_eq, streamValues_plainText, streamValues_steeredText]
    at husage
  revert husage
  decide

end CodexPool
