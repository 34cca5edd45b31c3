import CodexPool.Proxy.CodexAdaptation
import CodexPool.Proxy.WsTracker

/-!
# WebSocket requests for the Codex profile

A request for responses on a websocket is adapted in its frame. The frame is sent as it came where
nothing is seen to change; a `store` that the request does not have is set without being seen, and
the fields of a nested response are left as they are.
-/

namespace CodexPool

inductive AxumWsMessage where
  | text (text : String)
  | binary (data : Bytes)
  | ping (data : Bytes)
  | pong (data : Bytes)
  | close (frame : Option (Nat × String))

/-- The store of a request. An insertion is a change where it replaces something. -/
def adaptWsStore (isCompact : Bool) (value : Json) : Json × Bool :=
  if isCompact then takeField value "store"
  else if (value.get "store").bind Json.asBool = some false then (value, false)
  else (value.insert "store" (.bool false), (value.get "store").isSome)

def adaptWsValue (isCompact : Bool) (value : Json) : Json × Bool :=
  let (value, tierChanged) := adaptCodexServiceTierFieldsInValue value
  let (value, removedMaxOutputTokens) := takeField value "max_output_tokens"
  let (value, storeChanged) := adaptWsStore isCompact value
  (value, tierChanged || removedMaxOutputTokens || storeChanged)

def maybeAdaptWsDownstreamMessageForCodexProfile (codec : SerdeJson) (message : AxumWsMessage)
    (adaptCodexResponsesRequest : Bool) (requestPath : String) : AxumWsMessage :=
  if !adaptCodexResponsesRequest then message
  else
    let normalizedPath := normalizeInputPath requestPath
    if normalizedPath ≠ "/v1/responses" ∧ normalizedPath ≠ "/v1/responses/compact" then message
    else
      match message with
      | .text text =>
        match codec.fromStr text with
        | none => .text text
        | some value =>
          if extractWsEventType value ≠ some "response.create" then .text text
          else
            let (adapted, changed) :=
              adaptWsValue (normalizedPath = "/v1/responses/compact") value
            if changed then .text (codec.toText adapted) else .text text
      | message => message

/-! ## What the profile takes -/

/-- A part of a request without the parameters that the profile does not take. -/
structure WithoutUnsupported (isCompact : Bool) (part : Json) : Prop where
  maxOutputTokens : part.get "max_output_tokens" = none
  store : ∀ store, part.get "store" = some store → isCompact = false ∧ store = .bool false

/-- A request as the profile takes it. -/
structure MeetsWsProfile (isCompact : Bool) (value : Json) : Prop where
  request : WithoutUnsupported isCompact value
  stored : isCompact = false → (value.get "store").isSome
  response : ∀ response, value.get "response" = some response →
    WithoutUnsupported isCompact response

def SendsAdapted (codec : SerdeJson) (requestPath text : String) : Prop :=
  ∃ sent value, maybeAdaptWsDownstreamMessageForCodexProfile codec (.text text) true requestPath =
      .text sent ∧ codec.fromStr sent = some value ∧
    MeetsWsProfile (normalizeInputPath requestPath = "/v1/responses/compact") value

section Value

variable {isCompact : Bool} {value : Json}

theorem writes_adaptWsStore (isCompact : Bool) (value : Json) :
    Writes ["store"] value (adaptWsStore isCompact value).1 := by
  unfold adaptWsStore
  split
  · exact writes_remove value "store"
  · split
    · exact .refl _ value
    · exact writes_insert value _ _

theorem writes_adaptWsFields (value : Json) : Writes (["max_output_tokens"] ++ ["store"])
    (adaptCodexServiceTierFieldsInValue value).1 (adaptWsValue isCompact value).1 :=
  (writes_remove _ "max_output_tokens").trans (writes_adaptWsStore isCompact _)

theorem get_response_adaptWsValue (value : Json) :
    (adaptWsValue isCompact value).1.get "response" =
      (value.get "response").map fun response => (adaptCodexServiceTierField response).1 :=
  ((writes_adaptWsFields value).get "response" (by decide)).trans (get_response_adaptTiers value)

theorem get_maxOutputTokens_adaptWsValue (hsorted : value.Sorted) :
    (adaptWsValue isCompact value).1.get "max_output_tokens" = none :=
  ((writes_adaptWsStore isCompact _).get "max_output_tokens" (by decide)).trans
    (Json.get_remove_self (sorted_adaptTiers hsorted) "max_output_tokens")

theorem eq_bool_of_asBool {x : Json} {b : Bool} (h : x.asBool = some b) : x = .bool b := by
  cases x with
  | bool b' => exact congrArg Json.bool (Option.some.inj h)
  | _ => cases h

theorem get_store_adaptWsStore (hsorted : value.Sorted) (hobject : value.isObject = true) :
    (adaptWsStore isCompact value).1.get "store" =
      if isCompact then none else some (.bool false) := by
  unfold adaptWsStore
  cases isCompact with
  | true => exact Json.get_remove_self hsorted "store"
  | false =>
      simp only [Bool.false_eq_true, if_false]
      split
      next hfalse =>
        rcases Option.bind_eq_some_iff.1 hfalse with ⟨store, hstore, hbool⟩
        rw [hstore, eq_bool_of_asBool hbool]
      next => exact Json.get_insert_self hobject "store" _

theorem get_store_adaptWsValue (hsorted : value.Sorted) (hobject : value.isObject = true) :
    (adaptWsValue isCompact value).1.get "store" =
      if isCompact then none else some (.bool false) := by
  have hremoved : ((adaptCodexServiceTierFieldsInValue value).1.remove
      "max_output_tokens").isObject = true := by
    rw [Json.isObject_remove, isObject_adaptTiers, hobject]
  exact get_store_adaptWsStore ((sorted_adaptTiers hsorted).remove "max_output_tokens") hremoved

theorem withoutUnsupported_of_get_eq {part part' : Json}
    (hmax : part.get "max_output_tokens" = part'.get "max_output_tokens")
    (hstore : part.get "store" = part'.get "store") (h : WithoutUnsupported isCompact part') :
    WithoutUnsupported isCompact part :=
  ⟨hmax.trans h.maxOutputTokens, fun store h' => h.store store (hstore ▸ h')⟩

theorem withoutUnsupported_adaptTier_iff (part : Json) :
    WithoutUnsupported isCompact (adaptCodexServiceTierField part).1 ↔
      WithoutUnsupported isCompact part := by
  have hmax : (adaptCodexServiceTierField part).1.get "max_output_tokens" =
      part.get "max_output_tokens" := get_adaptCodexServiceTierField (by decide)
  have hstore : (adaptCodexServiceTierField part).1.get "store" = part.get "store" :=
    get_adaptCodexServiceTierField (by decide)
  exact ⟨withoutUnsupported_of_get_eq hmax.symm hstore.symm,
    withoutUnsupported_of_get_eq hmax hstore⟩

/-- The adapted value meets the profile when its response does. -/
theorem meetsWsProfile_adaptWsValue_iff (hsorted : value.Sorted)
    (hobject : value.isObject = true) :
    MeetsWsProfile isCompact (adaptWsValue isCompact value).1 ↔
      ∀ response, value.get "response" = some response →
        WithoutUnsupported isCompact response := by
  constructor
  · intro h response hresponse
    refine (withoutUnsupported_adaptTier_iff response).1 (h.response _ ?_)
    rw [get_response_adaptWsValue, hresponse, Option.map_some]
  · intro h
    refine ⟨⟨get_maxOutputTokens_adaptWsValue hsorted, ?_⟩, ?_, ?_⟩
    · intro store hstore
      rw [get_store_adaptWsValue hsorted hobject] at hstore
      cases isCompact with
      | true => cases hstore
      | false => exact ⟨rfl, (Option.some.inj hstore).symm⟩
    · rintro rfl
      rw [get_store_adaptWsValue hsorted hobject]
      rfl
    · intro response hresponse
      rw [get_response_adaptWsValue] at hresponse
      rcases Option.map_eq_some_iff.1 hresponse with ⟨original, horiginal, rfl⟩
      exact (withoutUnsupported_adaptTier_iff original).2 (h original horiginal)

theorem tierNormal_of_unchanged (h : (adaptCodexServiceTierField value).2 = false) :
    TierNormal value := by
  have hnormal := tierNormal_adaptCodexServiceTierField value
  rwa [adaptCodexServiceTierField_unchanged h] at hnormal

theorem adaptTiers_changed_iff (value : Json) :
    (adaptCodexServiceTierFieldsInValue value).2 = false ↔ TiersNormal value := by
  constructor
  · intro h
    unfold adaptCodexServiceTierFieldsInValue at h
    dsimp only at h
    have hget : (adaptCodexServiceTierField value).1.get "response" = value.get "response" :=
      get_adaptCodexServiceTierField (by decide)
    rw [hget] at h
    cases hresponse : value.get "response" with
    | none =>
        rw [hresponse] at h
        exact ⟨tierNormal_of_unchanged h, fun response h' => by rw [hresponse] at h'; cases h'⟩
    | some response =>
        simp only [hresponse, Bool.or_eq_false_iff] at h
        refine ⟨tierNormal_of_unchanged h.1, fun response' h' => ?_⟩
        rw [hresponse] at h'
        rcases h' with ⟨rfl⟩
        exact tierNormal_of_unchanged h.2
  · intro h
    rw [adaptTiers_of_normal h]

/-- Nothing is seen to change exactly when the tiers are normal, the limit is absent and the store
is absent or already false. -/
theorem adaptWsValue_changed_iff (value : Json) :
    (adaptWsValue isCompact value).2 = false ↔
      TiersNormal value ∧ value.get "max_output_tokens" = none ∧
        (value.get "store" = none ∨
          isCompact = false ∧ value.get "store" = some (.bool false)) := by
  have hmax : (adaptCodexServiceTierFieldsInValue value).1.get "max_output_tokens" =
      value.get "max_output_tokens" := get_adaptTiers (by decide) (by decide)
  have hstore : ((adaptCodexServiceTierFieldsInValue value).1.remove "max_output_tokens").get
      "store" = value.get "store" := by
    rw [Json.get_remove_of_ne _ (by decide)]
    exact get_adaptTiers (by decide) (by decide)
  have hchanged : (adaptWsStore isCompact
      ((adaptCodexServiceTierFieldsInValue value).1.remove "max_output_tokens")).2 = false ↔
      value.get "store" = none ∨ isCompact = false ∧ value.get "store" = some (.bool false) := by
    unfold adaptWsStore takeField
    rw [hstore]
    cases isCompact with
    | true => simp
    | false =>
        cases value.get "store" with
        | none => simp
        | some store =>
            cases store with
            | bool b => cases b <;> simp [Json.asBool]
            | _ => simp [Json.asBool]
  unfold adaptWsValue
  simp only [takeField, Bool.or_eq_false_iff, adaptTiers_changed_iff, hmax, hchanged,
    Option.isSome_eq_false_iff, Option.isNone_iff_eq_none, and_assoc]

theorem withoutUnsupported_of_eraseNumbers {part part' : Json}
    (h : WithoutUnsupported isCompact part) (heq : part'.eraseNumbers = part.eraseNumbers) :
    WithoutUnsupported isCompact part' := by
  have hget : ∀ k, (part'.get k).map Json.eraseNumbers = (part.get k).map Json.eraseNumbers := by
    intro k
    rw [← Json.get_eraseNumbers, ← Json.get_eraseNumbers, heq]
  constructor
  · have hmax := hget "max_output_tokens"
    rw [h.maxOutputTokens] at hmax
    exact Option.map_eq_none_iff.1 hmax
  · intro store hstore
    have hsame := hget "store"
    rw [hstore] at hsame
    rcases Option.map_eq_some_iff.1 hsame.symm with ⟨original, horiginal, heq⟩
    rcases h.store original horiginal with ⟨hcompact, rfl⟩
    refine ⟨hcompact, eq_bool_of_asBool ?_⟩
    rw [← Json.asBool_eraseNumbers, ← heq]
    rfl

theorem meetsWsProfile_of_eraseNumbers {value' : Json} (h : MeetsWsProfile isCompact value)
    (heq : value'.eraseNumbers = value.eraseNumbers) : MeetsWsProfile isCompact value' := by
  have hget : ∀ k, (value'.get k).map Json.eraseNumbers = (value.get k).map Json.eraseNumbers := by
    intro k
    rw [← Json.get_eraseNumbers, ← Json.get_eraseNumbers, heq]
  refine ⟨withoutUnsupported_of_eraseNumbers h.request heq, ?_, ?_⟩
  · intro hcompact
    have hstored := h.stored hcompact
    have hsame := congrArg Option.isSome (hget "store")
    simpa only [Option.isSome_map, hstored] using hsame
  · intro response hresponse
    have hsame := hget "response"
    rw [hresponse] at hsame
    rcases Option.map_eq_some_iff.1 hsame.symm with ⟨original, horiginal, heq⟩
    exact withoutUnsupported_of_eraseNumbers (h.response original horiginal) heq.symm

end Value

/-! ## The frame -/

/-- The codec reads the texts that it writes for adapted requests, up to the digits of numbers. -/
def ReadsAdapted (codec : SerdeJson) (isCompact : Bool) (value : Json) : Prop :=
  ∃ read, codec.fromStr (codec.toText (adaptWsValue isCompact value).1) = some read ∧
    read.eraseNumbers = (adaptWsValue isCompact value).1.eraseNumbers

/-- The frame that is sent for a request on one of the two paths. -/
theorem maybeAdaptWs_text {codec : SerdeJson} {requestPath text : String} {value : Json}
    (hpath : normalizeInputPath requestPath = "/v1/responses" ∨
      normalizeInputPath requestPath = "/v1/responses/compact")
    (hvalue : codec.fromStr text = some value)
    (htype : extractWsEventType value = some "response.create") :
    maybeAdaptWsDownstreamMessageForCodexProfile codec (.text text) true requestPath =
      let adapted := adaptWsValue (normalizeInputPath requestPath = "/v1/responses/compact") value
      if adapted.2 then .text (codec.toText adapted.1) else .text text := by
  rw [maybeAdaptWsDownstreamMessageForCodexProfile]
  rcases hpath with hpath | hpath
  · simp [hpath, hvalue, htype]
  · simp [hpath, hvalue, htype]

/-- The frame of a request meets the profile exactly when its response does and, where a store is
due and absent, something else is seen to change. -/
theorem sendsAdapted_iff (codec : SerdeJson) {requestPath text : String} {value : Json}
    (hpath : normalizeInputPath requestPath = "/v1/responses" ∨
      normalizeInputPath requestPath = "/v1/responses/compact")
    (hvalue : codec.fromStr text = some value) (hsorted : value.Sorted)
    (htype : extractWsEventType value = some "response.create")
    (hreads : ReadsAdapted codec (normalizeInputPath requestPath = "/v1/responses/compact") value) :
    SendsAdapted codec requestPath text ↔
      (∀ response, value.get "response" = some response →
        WithoutUnsupported (normalizeInputPath requestPath = "/v1/responses/compact") response) ∧
      (normalizeInputPath requestPath = "/v1/responses" →
        (value.get "store").isSome ∨ (value.get "max_output_tokens").isSome ∨
          ¬ TiersNormal value) := by
  set isCompact := decide (normalizeInputPath requestPath = "/v1/responses/compact")
    with hcompact
  have hobject : value.isObject = true := by
    cases value with
    | obj fields => rfl
    | _ => cases htype
  have hsent := maybeAdaptWs_text hpath hvalue htype
  dsimp only at hsent
  rw [← hcompact] at hsent
  have hplain : normalizeInputPath requestPath = "/v1/responses" ↔ isCompact = false := by
    rcases hpath with hpath | hpath <;> simp [hpath, hcompact]
  rw [hplain]
  cases hchanged : (adaptWsValue isCompact value).2 with
  | true =>
      rw [hchanged, if_pos rfl] at hsent
      rcases hreads with ⟨read, hread, hsame⟩
      have hmeets : SendsAdapted codec requestPath text ↔
          MeetsWsProfile isCompact (adaptWsValue isCompact value).1 := by
        constructor
        · rintro ⟨sent, read', hsent', hread', hprofile⟩
          rw [hsent] at hsent'
          rcases hsent' with ⟨rfl⟩
          rw [hread] at hread'
          rcases hread' with ⟨rfl⟩
          exact meetsWsProfile_of_eraseNumbers hprofile hsame.symm
        · intro hprofile
          exact ⟨_, read, hsent, hread, meetsWsProfile_of_eraseNumbers hprofile hsame⟩
      have hsees : isCompact = false → (value.get "store").isSome ∨
          (value.get "max_output_tokens").isSome ∨ ¬ TiersNormal value := by
        intro hplain
        by_contra hnone
        simp only [not_or, Option.not_isSome_iff_eq_none, not_not] at hnone
        have hunchanged : (adaptWsValue isCompact value).2 = false :=
          (adaptWsValue_changed_iff value).2 ⟨hnone.2.2, hnone.2.1, Or.inl hnone.1⟩
        rw [hchanged] at hunchanged
        cases hunchanged
      rw [hmeets, meetsWsProfile_adaptWsValue_iff hsorted hobject]
      exact ⟨fun h => ⟨h, hsees⟩, fun h => h.1⟩
  | false =>
      rw [hchanged, if_neg Bool.false_ne_true] at hsent
      rcases (adaptWsValue_changed_iff value).1 hchanged with ⟨htiers, hmax, hstore⟩
      have hmeets : SendsAdapted codec requestPath text ↔ MeetsWsProfile isCompact value := by
        constructor
        · rintro ⟨sent, read', hsent', hread', hprofile⟩
          rw [hsent] at hsent'
          rcases hsent' with ⟨rfl⟩
          rw [hvalue] at hread'
          rcases hread' with ⟨rfl⟩
          exact hprofile
        · exact fun hprofile => ⟨text, value, hsent, hvalue, hprofile⟩
      rw [hmeets]
      constructor
      · exact fun h => ⟨h.response, fun hplain => Or.inl (h.stored hplain)⟩
      · rintro ⟨hresponse, hsees⟩
        refine ⟨⟨hmax, ?_⟩, ?_, hresponse⟩
        · intro store hsome
          rcases hstore with hnone | ⟨hplain, hfalse⟩
          · rw [hnone] at hsome
            cases hsome
          · rw [hfalse] at hsome
            exact ⟨hplain, (Option.some.inj hsome).symm⟩
        · intro hplain
          rcases hsees hplain with hsome | hsome | htiers'
          · exact hsome
          · rw [hmax] at hsome
            cases hsome
          · exact absurd htiers htiers'

/-! ## A request without a store -/

/-- The text of a request, with one more field. -/
def createText (field : String) : String :=
  "\x7b\"type\":\"response.create\"" ++ field ++ "\x7d"

def createValue : Json := .obj [("type", .str "response.create")]

def storedCreateValue (store : Bool) : Json :=
  .obj [("store", .bool store), ("type", .str "response.create")]

/-- A codec that knows a request without a store, and one with it. -/
def createCodec : SerdeJson where
  fromSlice := (SerdeJson.ofTable [(createText "", createValue),
    (createText ",\"store\":true", storedCreateValue true),
    (createText ",\"store\":false", storedCreateValue false)]).fromSlice
  toText _ := createText ",\"store\":false"

theorem fromStr_createText : createCodec.fromStr (createText "") = some createValue := by
  have htext : (createText "").toUTF8.toList = Bytes.ofAscii (createText "") :=
    Bytes.toUTF8_ascii (by decide +kernel)
  rw [SerdeJson.fromStr, htext]
  rfl

/-- A store that has to be changed is seen. -/
theorem sendsAdapted_stored :
    SendsAdapted createCodec "/v1/responses" (createText ",\"store\":true") := by
  have htrue : (createText ",\"store\":true").toUTF8.toList =
      Bytes.ofAscii (createText ",\"store\":true") := Bytes.toUTF8_ascii (by decide +kernel)
  have hfalse : (createText ",\"store\":false").toUTF8.toList =
      Bytes.ofAscii (createText ",\"store\":false") := Bytes.toUTF8_ascii (by decide +kernel)
  have hread : createCodec.fromStr (createText ",\"store\":true") =
      some (storedCreateValue true) := by
    rw [SerdeJson.fromStr, htrue]
    rfl
  refine (sendsAdapted_iff createCodec (Or.inl (by decide)) hread
    (by change ["store", "type"].Pairwise (· < ·); decide) (by decide +kernel)
    ⟨storedCreateValue false, ?_, by rfl⟩).2 ⟨?_, fun _ => Or.inl (by rfl)⟩
  · change createCodec.fromStr (createText ",\"store\":false") = _
    rw [SerdeJson.fromStr, hfalse]
    rfl
  · rintro response ⟨⟩

/-- The frame of a request without a store is sent as it came. -/
theorem createText_sent_as_is : ¬ SendsAdapted createCodec "/v1/responses" (createText "") := by
  rintro ⟨sent, value, hsent, hread, hprofile⟩
  rw [maybeAdaptWs_text (Or.inl (by decide)) fromStr_createText (by decide +kernel)] at hsent
  have hunchanged : (adaptWsValue (normalizeInputPath "/v1/responses" = "/v1/responses/compact")
      createValue).2 = false := by rfl
  simp only [hunchanged, Bool.false_eq_true, if_false, AxumWsMessage.text.injEq] at hsent
  subst hsent
  rw [fromStr_createText] at hread
  rcases hread with ⟨rfl⟩
  cases hprofile.stored (by decide)

end CodexPool
